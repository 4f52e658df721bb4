import ChartBoard.Proofs.Chart.AddedPlots
import ChartBoard.Proofs.Session.RefusedTurns
import ChartBoard.Proofs.SharedBoard.Display

/-!
All that a line can do to the chart of a session, and so to the pictures of a board. The steps are
few (`Chart.Step`), and whatever a slot shows was the picture of some chart when the chart was
published. So what every step keeps of a chart holds of all charts of a shared board after any run,
and what it says of their pictures holds of all slots (`SharedBoard.Consistent.carries_hear`).
-/

namespace ChartBoard

/-- What a command makes of the chart of a session. -/
inductive Chart.Step (clock : Clock) (command : Command) : Option Chart → Option Chart → Prop where
  | keeps (chart : Option Chart) : Step clock command chart chart
  | creates (before : Option Chart) (kind : ChartKind) :
      Step clock command before (some (.create kind))
  | configures {name value : String} {before after : Chart}
      (hset : before.setAttribute name value = .ok after) :
      Step clock command (some before) (some after)
  | restarts (before : Chart) : Step clock command (some before) (some before.init)
  | addsPlot {before after : Chart} (hadd : before.addPlot = .ok after) :
      Step clock command (some before) (some after.settled)
  | works {step : Chart → Fed} (hstep : command.onPlots? clock = some step) (before : Chart) :
      Step clock command (some before) (some (step before).chart.settled)

/-- A command that leads from charts of one property to charts of another. -/
def Chart.Leads (clock : Clock) (command : Command) (Before After : Chart → Prop) : Prop :=
  ∀ {before after : Option Chart}, Chart.Step clock command before after →
    (∀ chart, before = some chart → Before chart) → ∀ chart, after = some chart → After chart

/-- No command takes an axis away that a plot has asked for. -/
theorem Chart.leads_hasAllocated (clock : Clock) (command : Command) :
    Chart.Leads clock command HasAllocated HasAllocated := by
  intro before after hstep hbefore chart hchart
  cases hstep with
  | keeps => exact hbefore chart hchart
  | creates _ kind =>
      obtain rfl := Option.some.inj hchart
      exact hasAllocated_blank kind _
  | configures hset =>
      have hearlier := hbefore _ rfl
      obtain rfl := Option.some.inj hchart
      obtain ⟨attributes, rfl⟩ := eq_of_setAttribute hset
      exact hearlier
  | restarts earlier =>
      obtain rfl := Option.some.inj hchart
      exact hasAllocated_blank _ _
  | addsPlot hadd =>
      have hadded := (hbefore _ rfl).addPlot hadd
      obtain rfl := Option.some.inj hchart
      exact hadded
  | works hstep earlier =>
      obtain rfl := Option.some.inj hchart
      have hadvances := Command.advances_onPlots hstep earlier
      have hearlier := hbefore earlier rfl
      unfold HasAllocated at hearlier ⊢
      rw [← hadvances.allocatedAxes, ← hadvances.axes] at hearlier
      exact hearlier

namespace Session

section Turns

variable (clock : Clock) {command : Command} (session : Session) (board : Board)

theorem step_withChart {step : Chart → Fed} (hstep : command.onPlots? clock = some step)
    (action : Action) :
    Chart.Step clock command session.chart (session.withChart action step board).session.chart := by
  cases hchart : session.chart with
  | none =>
      rw [withChart, hchart]
      dsimp only [refuse]
      rw [hchart]
      exact .keeps _
  | some chart =>
      rw [(withChart_outcome hchart action step board).2.2]
      exact .works hstep chart

variable {clock session board} in
theorem Outcome.step {turn : Turn} (h : session.Outcome clock board command turn) :
    Chart.Step clock command session.chart turn.session.chart := by
  cases h with
  | refused | ignored | arranges | titles | enablesStatus => exact .keeps _
  | choosesKind => exact .creates _ _
  | configures _ _ _ hchart hset =>
      rw [hchart]
      exact .configures hset
  | @initializes chart hchart =>
      rw [hchart]
      exact .restarts chart
  | addsPlot hchart _ hadd =>
      rw [hchart]
      exact .addsPlot hadd
  | works hstep action => exact step_withChart clock session board hstep action

/-- A line that is no command leaves the chart as it is. -/
theorem step_respond (line : String) :
    (session.respond clock line board).session.chart = session.chart ∨
      ∃ command, Command.read (withoutLineEnd line) = .ok command ∧
        Chart.Step clock command session.chart
          (session.respond clock line board).session.chart := by
  rw [session_respond, process]
  cases hread : Command.read (withoutLineEnd line) with
  | error refusal => exact .inl rfl
  | ok command => exact .inr ⟨command, rfl, (perform_outcome clock session board command).step⟩

end Turns

end Session

namespace SharedBoard

variable {Name : Type}

/-- Something holds of the charts of all sessions, and something of the pictures in all slots. -/
structure Carries (OfChart : Chart → Prop) (OfPicture : Picture → Prop) (state : SharedBoard Name) :
    Prop where
  charts : ∀ name chart, (state.sessions name).chart = some chart → OfChart chart
  pictures : ∀ slot picture, state.board.picture? slot = some picture → OfPicture picture

theorem carries_fresh (OfChart : Chart → Prop) (OfPicture : Picture → Prop) (slotOf : Name → Nat)
    (slotCount : Nat) (settings : BoardSettings) (window : Option Window) :
    (fresh slotOf (Board.create slotCount settings window)).Carries OfChart OfPicture where
  charts name chart hchart := by cases hchart
  pictures slot picture hpicture := by
    have hempty := picture?_create slotCount settings window slot
    cases hempty.symm.trans hpicture

variable [DecidableEq Name]

/-- What every step makes of charts, a line makes of the charts of a board; and each slot shows what
it has shown before, or one of these charts. -/
theorem Consistent.carries_hear {state : SharedBoard Name} (h : state.Consistent)
    {Before After : Chart → Prop} {OfPicture : Picture → Prop}
    (hcarries : state.Carries Before OfPicture)
    {message : Message Name} (hkeeps : ∀ chart, Before chart → After chart)
    (hshown : ∀ chart, After chart → OfPicture chart.picture)
    (hleads : ∀ command, Command.read (Session.withoutLineEnd message.line) = .ok command →
      Chart.Leads message.clock command Before After) :
    (state.hear message).Carries After OfPicture := by
  have hheard : ∀ chart, (state.response message).session.chart = some chart → After chart := by
    intro chart hchart
    rcases Session.step_respond message.clock (state.sessions message.recipient) state.board
      message.line with hsame | ⟨command, hread, hcommand⟩
    · exact hkeeps chart (hcarries.charts message.recipient chart (hsame.symm.trans hchart))
    · exact hleads command hread hcommand (hcarries.charts message.recipient) chart hchart
  refine ⟨fun name chart hchart => ?_, fun slot picture hpicture => ?_⟩
  · by_cases hname : name = message.recipient
    · subst hname
      rw [hear_recipient] at hchart
      exact hheard chart hchart
    · rw [hear_other hname] at hchart
      exact hkeeps chart (hcarries.charts name chart hchart)
  · rw [hear_board] at hpicture
    rcases h.response_cases message with ⟨_, hpublished⟩ | ⟨_, hquiet⟩
    · by_cases hslot : slot = (state.sessions message.recipient).slot
      · subst hslot
        have hin : (state.sessions message.recipient).slot < state.board.slotCount := by
          by_contra hout
          rw [← hpublished.slotCount] at hout
          cases (Board.picture?_outside hout).symm.trans hpicture
        obtain ⟨chart, hchart, hshows⟩ := hpublished.shows
        obtain rfl := Option.some.inj ((hshows hin).symm.trans hpicture)
        exact hshown chart (hheard chart hchart)
      · rw [Board.picture?, hpublished.elsewhere slot hslot] at hpicture
        exact hcarries.pictures slot picture hpicture
    · rw [Board.picture?, hquiet.slots.shown?] at hpicture
      exact hcarries.pictures slot picture hpicture

/-- What every step keeps of charts and shows of them, holds after every run. -/
theorem Consistent.carries_hearAll {state : SharedBoard Name} (h : state.Consistent)
    {OfChart : Chart → Prop} {OfPicture : Picture → Prop}
    (hcarries : state.Carries OfChart OfPicture)
    (hshown : ∀ chart, OfChart chart → OfPicture chart.picture)
    (hleads : ∀ clock command, Chart.Leads clock command OfChart OfChart)
    (messages : List (Message Name)) : (state.hearAll messages).Carries OfChart OfPicture := by
  induction messages generalizing state with
  | nil => exact hcarries
  | cons message messages ih =>
      rw [hearAll_cons]
      exact ih (h.hear message) (h.carries_hear hcarries (fun _ hchart => hchart) hshown
        fun command _ => hleads message.clock command)

/-- After every run the charts of all sessions have the axes that their plots have asked for. -/
theorem hasAllocated_reached (slotOf : Name → Nat) (board : Board) (messages : List (Message Name))
    (name : Name) (chart : Chart)
    (hchart : (((fresh slotOf board).hearAll messages).sessions name).chart = some chart) :
    chart.HasAllocated := by
  have hfresh : (fresh slotOf board).Carries Chart.HasAllocated fun _ => True :=
    ⟨fun _ _ hnone => (nomatch hnone), fun _ _ _ => trivial⟩
  exact ((consistent_fresh slotOf board).carries_hearAll hfresh (fun _ _ => trivial)
    Chart.leads_hasAllocated messages).charts name chart hchart

end SharedBoard

end ChartBoard
