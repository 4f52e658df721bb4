import ChartBoard.Proofs.Chart.CallOutcomes
import ChartBoard.Proofs.Client.AcceptedCalls

/-!
The calls that a client makes for a chart. A session at its place, whatever it has come to, accepts
the lines that open a chart of any kind and has a chart of that kind then, without plots. It accepts
a plot with all its settings if there is room for it. And it accepts the line of every call with
values that its chart takes (`Session.Updates`), as long as these are finite.
-/

namespace ChartBoard

open Text Connection ClientCall
open Session (Place Stands Holds Ready Feeds Accepts Updates)

namespace Session

/-- A session that has chosen a kind of chart. -/
def HasKind (kind : ChartKind) (session : Session) : Prop :=
  ∃ chart, session.chart = some chart ∧ chart.kind = kind

/-- A session that has initialised a chart of a kind. -/
def Opened (place : Place) (kind : ChartKind) : Session → Board → Prop :=
  Holds place (Ready fun chart => ∃ attributes, chart = .blank kind attributes)

section Opening

variable {place : Place} {kind : ChartKind}

theorem accepts_kind (place : Place) (kind : ChartKind) :
    Accepts (Stands place) [assignment SettingName.graph kind.name]
      (Holds place (HasKind kind)) := by
  have hread : Command.read (assignment SettingName.graph kind.name) =
      .ok (.set SettingName.graph kind.name) := by
    cases kind <;> decide
  have hname : ChartKind.ofName? (String.ofList (trim kind.name.toList)) = some kind := by
    cases kind <;> decide
  have hline : Accepts (Holds place fun _ => True) [assignment SettingName.graph kind.name]
      (Holds place (HasKind kind)) := by
    refine accepts_command hread fun clock session board _ => ?_
    rw [perform, set, if_pos rfl, setKind, hname]
    exact ⟨rfl, .create kind, rfl, Chart.kind_create kind⟩
  exact hline.imp (fun _ _ hstands => ⟨hstands, trivial⟩) fun _ _ h => h

theorem accepts_title (title : String) :
    Accepts (Holds place (HasKind kind)) [assignment Attribute.plotTitle.name title]
      (Holds place (HasKind kind)) := by
  refine accepts_command (Client.read_assignment .plotTitle title)
    fun clock session board hkind => ?_
  obtain ⟨chart, hchart, hholds⟩ := hkind
  have hset : chart.setAttribute Attribute.plotTitle.name (endTrimmed title) =
      .ok { chart with attributes := { chart.attributes with plotTitle := endTrimmed title } } := by
    rw [Chart.setAttribute, Attributes.set, Attribute.ofName?_name]
    rfl
  rw [perform, set_attribute, setAttribute, hchart]
  dsimp only
  rw [hset]
  exact ⟨rfl, _, rfl, hholds⟩

theorem accepts_init (place : Place) (kind : ChartKind) :
    Accepts (Holds place (HasKind kind)) [Keyword.init] (Opened place kind) := by
  have hread : Command.read Keyword.init = .ok .init := by decide
  refine accepts_command hread fun clock session board hkind => ?_
  obtain ⟨chart, hchart, rfl⟩ := hkind
  rw [perform, init, hchart]
  exact ⟨rfl, .inl rfl, chart.init, rfl, chart.attributes, rfl⟩

/-- A chart is opened with nothing of the one before it. -/
theorem accepts_chartLines (place : Place) (title : String) (kind : ChartKind) :
    Accepts (Stands place) (chartLines title kind) (Opened place kind) := by
  refine (accepts_kind place kind).append (Accepts.append ?_ (accepts_init place kind))
  split
  · exact accepts_nil
  · exact accepts_title title

end Opening

/-- A plot is added with all its settings, if there is room for it. -/
theorem accepts_plotLines {place : Place} {settings : PlotSettings}
    (hmin : settings.minScale.isFinite = true) (hmax : settings.maxScale.isFinite = true)
    {OfChart OfChart' : Chart → Prop}
    (hadd : ∀ chart, OfChart chart → ∃ after,
      (chart.configured settings).addPlot = .ok after ∧ OfChart' after.settled) :
    Accepts (Holds place (Ready OfChart)) (plotLines (some settings)) (Feeds place OfChart') := by
  let Configured (configured : Chart) : Prop := ∃ chart, OfChart chart ∧
    configured = chart.configured settings
  have hset : Accepts (Holds place (Ready OfChart))
      (settings.assignments.map fun entry => assignment entry.1.name entry.2)
      (Holds place (Ready Configured)) := by
    intro clocks number session board hbefore
    obtain ⟨hstage, chart, hchart, hholds⟩ := hbefore.holds
    have hselected : session.stage ≠ .typeSelected := by
      rcases hstage with h | h <;> simp [h]
    obtain ⟨haccepted, hsession, -⟩ := Client.hearAll_assignments hchart
      (Attributes.assignAll_assignments hmin hmax chart.attributes) hselected clocks number board
    refine ⟨haccepted, hbefore.toStands.hearAll clocks number _, ?_⟩
    rw [hsession]
    exact ⟨hstage, _, rfl, chart, hholds, rfl⟩
  have hread : Command.read Keyword.addPlot = .ok .addPlot := by decide
  refine hset.append (accepts_addPlot hread ?_)
  rintro configured ⟨chart, hholds, rfl⟩
  exact hadd chart hholds

end Session

namespace Client

open Session (Opened)

variable {limit : Nat} {caching : Bool} {kept : List String} {place : Place}

theorem succeeds_openChart {title : String} {kind : ChartKind}
    (hlines : ∀ line ∈ chartLines title kind, Sendable limit line) :
    Succeeds (Rests limit caching kept (Stands place)) (openChart kind.name title)
      (Rests limit caching kept (Opened place kind)) := by
  have hmake : (openChart kind.name title : Call (Recorded ServedLink) Unit) =
      sayAll (chartLines title kind) := make_openChart (ChartKind.ofName?_name kind) title
  rw [hmake]
  exact succeeds_sayAll (Session.accepts_chartLines place title kind) hlines

section Values

variable {OfChart OfChart' : Chart → Prop} (hlimit : roomyLimit ≤ limit)

include hlimit

theorem succeeds_addPlot {settings : PlotSettings} (hsettings : settings.Sendable)
    (hadd : ∀ chart, OfChart chart → ∃ after,
      (chart.configured settings).addPlot = .ok after ∧ OfChart' after.settled) :
    Succeeds (Rests limit caching kept (Holds place (Ready OfChart))) (addPlot (some settings))
      (Rests limit caching kept (Feeds place OfChart')) := by
  have hmake : (addPlot (some settings) : Call (Recorded ServedLink) Unit) =
      sayAll (plotLines (some settings)) := make_addPlot (some settings)
  rw [hmake]
  exact succeeds_sayAll (Session.accepts_plotLines hsettings.minScale hsettings.maxScale hadd)
    (sendable_plotLines hlimit hsettings)

/-- The first plot of a chart finds it as it has been initialised. -/
theorem succeeds_firstPlot {kind : ChartKind} {settings : PlotSettings}
    (hsettings : settings.Sendable)
    (hadd : ∀ attributes, ∃ after,
      ((Chart.blank kind attributes).configured settings).addPlot = .ok after ∧
      OfChart after.settled) :
    Succeeds (Rests limit caching kept (Opened place kind)) (addPlot (some settings))
      (Rests limit caching kept (Feeds place OfChart)) := by
  refine succeeds_addPlot hlimit hsettings ?_
  rintro _ ⟨attributes, rfl⟩
  exact hadd attributes

/-- A further plot of a chart that is being fed. -/
theorem succeeds_nextPlot {settings : PlotSettings} (hsettings : settings.Sendable)
    (hadd : ∀ chart, OfChart chart → ∃ after,
      (chart.configured settings).addPlot = .ok after ∧ OfChart' after.settled) :
    Succeeds (Rests limit caching kept (Feeds place OfChart)) (addPlot (some settings))
      (Rests limit caching kept (Feeds place OfChart')) :=
  (succeeds_addPlot hlimit hsettings hadd).imp
    (fun _ h => { h with reached := h.reached.ready }) fun _ h => h

theorem succeeds_addValues {values : List Binary64} (hne : values ≠ []) (hfew : values.length ≤ 2)
    (hfinite : ∀ x ∈ values, x.isFinite = true)
    (hupdates : Updates OfChart (.data (.sequential values)) OfChart') :
    Succeeds (Rests limit false kept (Feeds place OfChart)) (addValues values)
      (Rests limit false kept (Feeds place OfChart')) := by
  rw [addValues, if_neg (by simpa using hne), sequentialLine_eq]
  exact succeeds_sendData
    (Session.accepts_onPlots (Command.read_sequentialLine hne hfinite) hupdates)
    (Command.sendable_sequentialLine hlimit hfew hfinite)

theorem succeeds_addPoint {p : PlotPoint} (hplot : p.plot < word64) (hx : p.x.isFinite = true)
    (hy : p.y.isFinite = true) (hupdates : Updates OfChart (.data (.points [p])) OfChart') :
    Succeeds (Rests limit false kept (Feeds place OfChart)) (addPoint p)
      (Rests limit false kept (Feeds place OfChart')) := by
  rw [addPoint, pointLine_eq]
  exact succeeds_sendData (Session.accepts_onPlots (Command.read_pointLine hplot hx hy) hupdates)
    (Command.sendable_pointLine hlimit hplot hx hy)

/-- The first plot is written over from its beginning. -/
theorem succeeds_replot (hupdates : Updates OfChart (.replot 0) OfChart') :
    Succeeds (Rests limit caching kept (Feeds place OfChart)) (replot 0)
      (Rests limit caching kept (Feeds place OfChart')) := by
  have hline : Sendable limit (Keyword.replot ++ " " ++ toString 0) :=
    ⟨⟨Nat.le_trans (by decide) hlimit, .inr (by decide)⟩,
      oneLine_operand (oneLine_ofList (by decide)) 0⟩
  refine succeeds_command (Session.accepts_onPlots ?_ hupdates) hline
  rw [keywordLine_eq]
  exact Command.read_replotLine (by decide)

end Values

/-- A value with its time is kept back as a line that can be sent and is accepted later. -/
theorem succeeds_addTimed {Reached : Session → Board → Prop} (plot : Nat) (time : Timestamp)
    (y : Binary64) :
    Succeeds (Rests limit true kept Reached) (addTimed plot time y)
      (Rests limit true (kept ++ [String.ofList (Command.timedLine plot time y)]) Reached) := by
  rw [addTimed, timedLine_eq]
  exact succeeds_keepBack _

end Client

end ChartBoard
