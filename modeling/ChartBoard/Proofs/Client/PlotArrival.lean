import ChartBoard.Proofs.Client.CallAnswers
import ChartBoard.Proofs.Session.PlotSettings
import ChartBoard.Proofs.SharedBoard.ChartSteps
import ChartBoard.Proofs.SharedBoard.History

/-!
The settings of a plot arrive. A client says each of them on a line of its own and adds the plot
behind them; a session that has initialised its chart accepts all these lines, one after the other,
and has the settings afterwards, its chart the plot and its slot the picture with the plot
(`Client.plot_settings_arrive`).
-/

namespace ChartBoard

open Text Connection ClientCall
open SharedBoard (fresh hasChart_reached hasAllocated_reached)

namespace Client

/-- The line for an attribute is read as its assignment, up to the blanks at the end. -/
theorem read_assignment (item : Attribute) (value : String) :
    Command.read (assignment item.name value) = .ok (.set item.name (endTrimmed value)) := by
  have hname : Free (· == '=') item.name.toList ∧ trim item.name.toList = item.name.toList ∧
      item.name.toList ≠ [] := by
    cases item <;> decide
  obtain ⟨hfree, htrim, hempty⟩ := hname
  rw [assignment, assignmentLine_eq, Command.read_assignmentLine hfree htrim hempty,
    String.ofList_toList, endTrimmed]

section Lines

variable {session : Session} {chart : Chart} (hchart : session.chart = some chart)

include hchart

/-- A session takes assignments one after the other as the attributes of its chart take them. -/
theorem hearAll_assignments {entries : List (Attribute × String)} {attributes : Attributes}
    (hset : chart.attributes.assignAll entries = .ok attributes)
    (hstage : session.stage ≠ .typeSelected) (clocks : Nat → Clock) (number : Nat) (board : Board) :
    let lines := entries.map fun (item, value) => assignment item.name value
    let heard := hearAll clocks number lines session board
    (∀ reply ∈ heard.replies, reply = .ok) ∧
      heard.session = { session with chart := some { chart with attributes := attributes } } ∧
      board.SameSlots heard.board := by
  induction entries generalizing session chart number board with
  | nil =>
      cases hset
      refine ⟨fun reply hreply => (nomatch hreply), ?_, .refl board⟩
      cases session
      cases hchart
      rfl
  | cons entry entries ih =>
      obtain ⟨item, value⟩ := entry
      rw [Attributes.assignAll, List.foldlM_cons, bind_eq_ok_iff] at hset
      obtain ⟨middle, hfirst, hlater⟩ := hset
      obtain ⟨hreply, hsession, hslots⟩ := Session.respond_set hchart (read_assignment item value)
        hfirst hstage (clocks number) board
      have hstage' :
          (session.respond (clocks number) (assignment item.name value) board).session.stage ≠
            .typeSelected := by
        rw [hsession]
        exact hstage
      obtain ⟨haccepted, hafter, hsame⟩ :=
        ih (congrArg Session.chart hsession) hlater hstage' (number + 1)
          (session.respond (clocks number) (assignment item.name value) board).board
      dsimp only
      rw [List.map_cons, hearAll]
      refine ⟨List.forall_mem_cons.mpr ⟨hreply, haccepted⟩, ?_, hslots.trans hsame⟩
      rw [hafter, hsession]

end Lines

/-- A session with an initialised chart takes a plot with all its settings. -/
theorem hear_plotLines {settings : PlotSettings} (hmin : settings.minScale.isFinite = true)
    (hmax : settings.maxScale.isFinite = true) {link : ServedLink} {chart : Chart}
    (hchart : link.session.chart = some chart) (hallocated : chart.HasAllocated)
    (hroom : ∀ most, chart.kind.mostPlots? = some most → chart.plotCount < most)
    (hstage : link.session.stage = .initialized ∨ link.session.stage = .feeding) :
    let heard := link.hear (plotLines (some settings))
    (∀ reply ∈ heard.replies, reply = .ok) ∧
      ∃ after, heard.session.chart = some after ∧ settings.Added chart after ∧
        (link.session.slot < link.server.board.slotCount →
          heard.board.picture? link.session.slot = some after.picture) := by
  have hselected : link.session.stage ≠ .typeSelected := by
    rcases hstage with h | h <;> simp [h]
  have hset := Attributes.assignAll_assignments hmin hmax chart.attributes
  obtain ⟨haccepted, hconfigured, hslots⟩ :=
    hearAll_assignments hchart hset hselected link.clocks link.answered link.server.board
  obtain ⟨after, hadd⟩ : ∃ after, (chart.configured settings).addPlot = .ok after :=
    Chart.addPlot_isOk_iff.mpr hroom
  have hadded := Chart.added_of_addPlot hallocated hadd
  rw [plotLines, Option.elim_some, ServedLink.hear]
  generalize settings.assignments.map (fun (item, value) => assignment item.name value) = said at *
  rw [hearAll_append]
  generalize hearAll link.clocks link.answered said link.session link.server.board = first at *
  have hread : Command.read Keyword.addPlot = .ok .addPlot := by decide
  obtain ⟨hreply, hpictured, hshown⟩ := Session.respond_addPlot (congrArg Session.chart hconfigured)
    hread hadd (by rw [hconfigured]; exact hstage) (link.clocks (link.answered + said.length))
    first.board
  dsimp only
  rw [hearAll, hearAll]
  refine ⟨List.forall_mem_append.mpr ⟨haccepted, List.forall_mem_singleton.mpr hreply⟩,
    after.settled, hpictured, ⟨hadded.attributes, hadded.plotCount, hadded.plot,
      hadded.sameAxes⟩, ?_⟩
  intro hslot
  have hsame : first.session.slot = link.session.slot := by rw [hconfigured]
  rw [hsame, hslots.slotCount] at hshown
  exact hshown hslot

/-- The settings of a plot arrive. Let a client have nothing left on its link to a session that has
initialised its chart, whatever that and the other sessions on the board have heard, and let there
be room for one more plot and in the lines. A plot with names of one line and a finite scale is then
accepted. The attributes of the chart have all its settings, the names without the blanks behind
them; the chart has one plot more, the last in the picture that the slot shows; and the axes are as
they were unless the plot asks for one. -/
theorem plot_settings_arrive {Name : Type} [DecidableEq Name] (slotOf : Name → Nat) (board : Board)
    (messages : List (Message Name)) (name : Name) (client : Client (Recorded ServedLink))
    (settings : PlotSettings)
    (hsession : client.link.link.session = ((fresh slotOf board).hearAll messages).sessions name)
    (hdrained : client.link.link.inbox.bytes = [])
    (hstage : client.link.link.session.stage = .initialized ∨
      client.link.link.session.stage = .feeding)
    (hroom : ∀ chart, client.link.link.session.chart = some chart →
      ∀ most, chart.kind.mostPlots? = some most → chart.plotCount < most)
    (hnames : ∀ text ∈ [settings.plotName, settings.xAxisName, settings.yAxisName],
      OneLine text.toList)
    (hmin : settings.minScale.isFinite = true) (hmax : settings.maxScale.isFinite = true)
    (hfits : ∀ line ∈ plotLines (some settings), Fits client.link.link.server.maxLineLength line) :
    let session := client.link.link.session
    let made := run (Client.addPlot (some settings)) client
    let link := made.2.link.link
    made.1 = .ok () ∧
      ∃ before after, session.chart = some before ∧ link.session.chart = some after ∧
        settings.Added before after ∧
        (session.slot < client.link.link.server.board.slotCount →
          link.server.board.picture? session.slot = some after.picture) := by
  intro session made link
  have hchosen : session.stage ≠ .noType := by
    rcases hstage with h | h <;> simp [session, h]
  obtain ⟨before, hbefore⟩ : ∃ chart, session.chart = some chart := by
    rw [show session = _ from hsession] at hchosen ⊢
    exact hasChart_reached slotOf board messages name hchosen
  have hallocated : before.HasAllocated := by
    rw [show session = _ from hsession] at hbefore
    exact hasAllocated_reached slotOf board messages name before hbefore
  obtain ⟨haccepted, after, hafter, hadded, hshown⟩ :=
    hear_plotLines hmin hmax hbefore hallocated (hroom before hbefore) hstage
  have hlines : ∀ line ∈ plotLines (some settings), OneLine line.toList := oneLine_plotLines hnames
  obtain ⟨final, hrun, hheard⟩ :
      ∃ final, run (Client.addPlot (some settings)) client = (.ok (), final) ∧
        Recorded.Heard (plotLines (some settings)) client.link final.link :=
    @made_of_accepted (.addPlot (some settings)) client rfl (by simp) rfl hdrained
      (fun line hline => ⟨hfits line hline, hlines line hline⟩) haccepted
  have hmade : made = (.ok (), final) := hrun
  have hlink : link = final.link.link := congrArg (fun made => made.2.link.link) hmade
  refine ⟨congrArg Prod.fst hmade, before, after, hbefore, ?_, hadded, fun hslot => ?_⟩
  · rw [hlink, hheard.session]
    exact hafter
  · rw [hlink, hheard.board]
    exact hshown hslot

/-- The second needle of a dial asks for an axis although the name of the axis is blank. Blanks in
front of a name and equals signs in it are kept, and the title is that of the dial. -/
theorem plot_settings_arrive_needle :
    let messages := ["set graph=dial", "set plot_title=T", "init", "add_plot"].map fun line =>
      (⟨true, fun _ => 0, line⟩ : Message Bool)
    let state := (fresh (fun _ => 0) (Board.create 1 {} none)).hearAll messages
    let settings : PlotSettings :=
      { plotName := "  a = b \t", yAxisName := " ",
        minScale := .finite true ⟨0x3FF8000000000000, by decide⟩ }
    let link : ServedLink :=
      ⟨⟨[], 100, state.board⟩, state.sessions true, fun _ _ => 0, 0, ⟨[], .silence⟩⟩
    let client : Client (Recorded ServedLink) :=
      { link := { link := link }, version := .zero, patience := 0 }
    let made := run (Client.addPlot (some settings)) client
    (state.sessions true).stage = .feeding ∧ made.1 = .ok () ∧
      ∃ before after plot,
        made.2.link.link.session.chart = some after ∧ settings.Added before after ∧
        after.attributes.plotName = "  a = b" ∧ after.attributes.yAxisName = "" ∧
        after.attributes.plotTitle = before.attributes.plotTitle ∧
        after.picture.plots = before.picture.plots ++ [plot] ∧ plot.style.name = "  a = b" ∧
        after.picture.axes[plot.style.axis]? = some settings.axis ∧
        made.2.link.link.server.board.picture? 0 = some after.picture := by
  intro messages state settings link client made
  have hstage : (state.sessions true).stage = .feeding := by decide +kernel
  have hslot : (state.sessions true).slot = 0 ∧ 0 < state.board.slotCount := by decide +kernel
  have houtline : (state.sessions true).chart.map Chart.outline = some ⟨.dial, 1⟩ :=
    by decide +kernel
  have hdial : ∀ chart, (state.sessions true).chart = some chart →
      chart.kind = .dial ∧ chart.plotCount = 1 := by
    intro chart hchart
    rw [hchart, Option.map_some, Option.some.injEq, Chart.outline, Outline.mk.injEq] at houtline
    exact houtline
  have hroom : ∀ chart, (state.sessions true).chart = some chart →
      ∀ most, chart.kind.mostPlots? = some most → chart.plotCount < most := by
    intro chart hchart
    rw [(hdial chart hchart).1, (hdial chart hchart).2]
    decide
  have hwithin : ∀ line ∈ plotLines (some settings), (Utf8.encode line.toList).length ≤ 100 := by
    decide +kernel
  have hnames : ∀ text ∈ [settings.plotName, settings.xAxisName, settings.yAxisName],
      OneLine text.toList := by
    decide +kernel
  have hmax : settings.maxScale.isFinite = true := by decide +kernel
  have hsession : client.link.link.session = state.sessions true := rfl
  obtain ⟨hok, before, after, hbefore, hafter, hadded, hshown⟩ :=
    plot_settings_arrive (fun _ => 0) (Board.create 1 {} none) messages true client settings
      hsession rfl (.inr hstage) hroom hnames rfl hmax
      fun line hline => ⟨hwithin line hline, .inl (by decide)⟩
  have hmade : run (Client.addPlot (some settings)) client = made := rfl
  rw [hmade] at hafter hok hshown
  obtain ⟨plot, hplots, hstyle, haxis⟩ := hadded.plot
  have hname : endTrimmed "  a = b \t" = "  a = b" := by decide +kernel
  have hblank : endTrimmed " " = "" := by decide +kernel
  have hattributes := hadded.attributes
  refine ⟨hstage, hok, before, after, plot, hafter, hadded, ?_, ?_, ?_, hplots, ?_, ?_, ?_⟩
  · exact (congrArg Attributes.plotName hattributes).trans hname
  · exact (congrArg Attributes.yAxisName hattributes).trans hblank
  · rw [hattributes, PlotSettings.configure]
  · exact hstyle.name.trans hname
  · exact haxis (.inr (hdial before hbefore).1)
  · have hpicture := hshown
    rw [hslot.1] at hpicture
    exact hpicture hslot.2

end Client

end ChartBoard
