import ChartBoard.Proofs.Session.Turns

/-!
Charts by their calls. A chart is made of one kind and then only called; each call has a result,
and after it the picture, the axes and the plots can be looked at. No call changes the kind, and
`init` starts again from the kind and the attributes, so that nothing else is left of the calls
before it (`Chart.observations_init`).
-/

namespace ChartBoard

/-- The calls of a chart. A value without a time is kept under the reading of the clock. -/
inductive ChartCall where
  | setAttribute (name value : String)
  | init
  | addPlot
  | addValue (now : Int) (index : Nat) (y : Binary64)
  | addPoint (index : Nat) (point : Point)
  | addTimed (index : Nat) (time : Int) (y : Binary64)
  | clear (index : Nat)
  | replot (index : Nat)
  | takeChanges

/-- What is told about a plot that has been added. -/
structure PlotHandle where
  index : Nat
  name : String
  color : PlotColor
  axis : Nat

inductive CallResult where
  | done
  | added (plot : PlotHandle)
  | taken (changes : List Change)
  | refused (refusal : Refusal)

/-- What is seen of a chart after a call. -/
structure Observation where
  result : CallResult
  picture : Picture
  axisCount : Nat
  plotCount : Nat

namespace Chart

/-- The handle of the plot that is added next. -/
def nextHandle (chart : Chart) : PlotHandle where
  index := chart.plotCount
  name := chart.styleForPlot.name
  color := chart.styleForPlot.color
  axis := chart.styleForPlot.axis

/-- The result of a step and the chart after it; one that is refused leaves the chart as it was. -/
def conclude (result : CallResult) (step : Chart → Except Refusal Chart) (chart : Chart) :
    CallResult × Chart :=
  match step chart with
  | .ok next => (result, next)
  | .error refusal => (.refused refusal, chart)

def call : ChartCall → Chart → CallResult × Chart
  | .setAttribute name value, chart => chart.conclude .done (setAttribute name value)
  | .init, chart => (.done, chart.init)
  | .addPlot, chart => chart.conclude (.added chart.nextHandle) addPlot
  | .addValue now index y, chart => chart.conclude .done (addValue now index y)
  | .addPoint index point, chart => chart.conclude .done (addPoint index point)
  | .addTimed index time y, chart => chart.conclude .done (addTimed index time y)
  | .clear index, chart => chart.conclude .done (clear index)
  | .replot index, chart => chart.conclude .done (replot index)
  | .takeChanges, chart => (.taken chart.pending, chart.settled)

def afterCalls (calls : List ChartCall) (chart : Chart) : Chart :=
  calls.foldl (fun chart call => (chart.call call).2) chart

def observe (result : CallResult) (chart : Chart) : Observation where
  result := result
  picture := chart.picture
  axisCount := chart.axes.length
  plotCount := chart.plotCount

/-- What is seen in the course of some calls. -/
def observations : List ChartCall → Chart → List Observation
  | [], _ => []
  | call :: calls, chart =>
      let (result, next) := chart.call call
      next.observe result :: observations calls next

theorem kind_conclude {step : Chart → Except Refusal Chart} {chart : Chart}
    (h : ∀ next, step chart = .ok next → next.kind = chart.kind) (result : CallResult) :
    (chart.conclude result step).2.kind = chart.kind := by
  unfold conclude
  split
  · rename_i next hstep
    exact h next hstep
  · rfl

theorem kind_of_ruled {step : Chart → Except Refusal Chart} {refusal? : Outline → Option Refusal}
    (h : Ruled step refusal?) {chart next : Chart} (hstep : step chart = .ok next) :
    next.kind = chart.kind := by
  have hadvances := advances_attempt h chart
  rw [attempt, hstep] at hadvances
  exact hadvances.kind

theorem kind_call (call : ChartCall) (chart : Chart) : (chart.call call).2.kind = chart.kind := by
  cases call with
  | setAttribute name value =>
      refine kind_conclude (fun next hstep => ?_) _
      obtain ⟨attributes, rfl⟩ := eq_of_setAttribute hstep
      rfl
  | init =>
      change (Series.empty chart.kind).kind = chart.kind
      cases chart.kind <;> rfl
  | addPlot => exact kind_conclude (fun _ hstep => (of_addPlot hstep).2.1) _
  | addValue now index y =>
      exact kind_conclude (fun _ => kind_of_ruled (ruled_addValue now index y)) _
  | addPoint index point =>
      exact kind_conclude (fun _ => kind_of_ruled (ruled_addPoint index point)) _
  | addTimed index time y =>
      exact kind_conclude (fun _ => kind_of_ruled (ruled_addTimed index time y)) _
  | clear index => exact kind_conclude (fun _ => kind_of_ruled (ruled_clear index)) _
  | replot index => exact kind_conclude (fun _ => kind_of_ruled (ruled_replot index)) _
  | takeChanges => rfl

theorem kind_afterCalls (calls : List ChartCall) (chart : Chart) :
    (chart.afterCalls calls).kind = chart.kind := by
  induction calls generalizing chart with
  | nil => rfl
  | cons call calls ih =>
      rw [← kind_call call chart]
      exact ih (chart.call call).2

/-- Kind and attributes are all that is left of a chart by `init`. -/
theorem init_congr {first second : Chart} (hkind : first.kind = second.kind)
    (hattributes : first.attributes = second.attributes) : first.init = second.init := by
  rw [init, init, hkind, hattributes]

/-- So they are all that can be seen of it from then on. -/
theorem observations_init {first second : Chart} (hkind : first.kind = second.kind)
    (hattributes : first.attributes = second.attributes) (later : List ChartCall) :
    first.observations (.init :: later) = second.observations (.init :: later) := by
  have hinit (chart : Chart) : chart.observations (.init :: later) =
      chart.init.observe .done :: chart.init.observations later := rfl
  rw [hinit, hinit, init_congr hkind hattributes]

end Chart

end ChartBoard
