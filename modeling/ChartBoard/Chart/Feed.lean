import ChartBoard.Calendar.Clock
import ChartBoard.Chart.Basic
import ChartBoard.Protocol.Command

/-!
Giving a line of values to a chart. The indices of all plots are looked at before
any value is taken. Should a value be refused after all, the ones before it have
been taken.
-/

namespace ChartBoard

/-- What became of a chart, and whether all went well. -/
structure Fed where
  chart : Chart
  result : Except Refusal Unit

namespace Chart

/-- Do one thing after another up to the first that is refused. -/
def doEach {α : Type} (step : α → Chart → Except Refusal Chart) : List α → Chart → Fed
  | [], chart => ⟨chart, .ok ()⟩
  | x :: xs, chart =>
      match step x chart with
      | .ok chart => doEach step xs chart
      | .error refusal => ⟨chart, .error refusal⟩

/-- One step that either succeeds or leaves the chart as it was. -/
def attempt (step : Chart → Except Refusal Chart) (chart : Chart) : Fed :=
  match step chart with
  | .ok next => ⟨next, .ok ()⟩
  | .error refusal => ⟨chart, .error refusal⟩

def refuseIndex (index : Nat) (chart : Chart) : Fed :=
  ⟨chart, .error (.noSuchPlot chart.kind index chart.plotCount)⟩

/-- Take the values of one line. -/
def feed (clock : Clock) (data : DataLine) (chart : Chart) : Fed :=
  match data with
  | .sequential values =>
      if chart.plotCount < values.length then
        chart.refuseIndex (values.length - 1)
      else
        chart.doEach (fun (y, index) => addValue (clock index).now index y) values.zipIdx
  | .points points =>
      match points.find? fun p => chart.plotCount ≤ p.plot with
      | some p => chart.refuseIndex p.plot
      | none => chart.doEach (fun p => addPoint p.plot ⟨p.x, p.y⟩) points
  | .timed index time y => chart.attempt (addTimed index ((clock 0).instant time) y)

end Chart

end ChartBoard
