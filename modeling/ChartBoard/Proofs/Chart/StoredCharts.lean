import ChartBoard.Proofs.Chart.CallOutcomes
import Mathlib.Data.Nat.PSub

/-!
Charts as they are stored: the styles of the plots in one list and their buffers in others, joined
by position only. An access to a buffer may then fail, and so may the step back from the number of a
bar to its position; a call is none if this happens (`StoredChart.call`). Placing a value in a trace
over time accesses it by positions too, and never fails (`TimeTrace.insertAt?_eq`).
-/

namespace ChartBoard

/-- The buffers of the plots of a chart. Bars have one for all, with the number of the next bar. -/
inductive Buffers where
  | time (traces : List TimeTrace)
  | bar (bars : List Point) (counter : Nat)
  | xy (traces : List CursorTrace)
  | dial (values : List Binary64)

namespace Buffers

def empty : ChartKind → Buffers
  | .time => time []
  | .bar => bar [] 1
  | .xy => xy []
  | .dial => dial []

def kind : Buffers → ChartKind
  | time _ => .time
  | bar _ _ => .bar
  | xy _ => .xy
  | dial _ => .dial

/-- Make room for one more plot. -/
def grow (maxAge : Nat) : Buffers → Buffers
  | time traces => time (traces ++ [{ maxAge := maxAge }])
  | bar bars counter => bar bars counter
  | xy traces => xy (traces ++ [{}])
  | dial values => dial (values ++ [.zero])

/-- What is drawn of each buffer. -/
def data : Buffers → List PlotData
  | time traces => traces.map TimeTrace.data
  | bar bars _ => [.points bars]
  | xy traces => traces.map fun trace => .points trace.points
  | dial values => values.map .value

/-- The buffers of so many plots: one for each of them, with cursors that stand on a point or right
behind the last one; or the bars, numbered from one, of a single plot at most. -/
def Fit (count : Nat) : Buffers → Prop
  | time traces => traces.length = count
  | bar bars counter => count ≤ 1 ∧ 1 ≤ counter ∧ counter ≤ bars.length + 1 ∧
      ∀ (k : Nat) (bar : Point), bars[k]? = some bar → bar.x = .ofNat (k + 1)
  | xy traces => traces.length = count ∧ ∀ trace ∈ traces, trace.cursor ≤ trace.points.length
  | dial values => values.length = count

end Buffers

namespace TimeTrace

/-- Put a value where its time belongs. This fails if there is no value to replace there, or if the
position lies beyond the end. -/
def placeAt? (v : TimedValue) (values : List TimedValue) : Option (List TimedValue) :=
  let position := (earlier v.time values).length
  if hasTime v.time values then
    values[position]?.map fun old => values.set position { old with value := v.value }
  else if position ≤ values.length then
    some (values.insertIdx position v)
  else
    none

/-- Place a value, drop those that have become too old, and tell the edits. This fails if more are
to be dropped than there are. -/
def insertAt? (v : TimedValue) (trace : TimeTrace) : Option (TimeTrace × List Edit) := do
  let values ← placeAt? v trace.values
  let stale := staleCount trace.maxAge values
  if stale ≤ values.length then
    return ({ trace with values := values.drop stale },
      placeEdit v trace.values :: if stale = 0 then [] else [.dropOldest stale])
  else
    none

end TimeTrace

structure StoredChart where
  attributes : Attributes
  header : Header
  axes : List Axis
  allocatedAxes : Nat
  styles : List PlotStyle
  buffers : Buffers
  pending : List Change

namespace StoredChart

def kind (chart : StoredChart) : ChartKind := chart.buffers.kind

def plotCount (chart : StoredChart) : Nat := chart.styles.length

/-- The picture joins styles and data by position. What has no partner is not in it. -/
def picture (chart : StoredChart) : Picture where
  kind := chart.kind
  header := chart.header
  axes := chart.axes
  plots := List.zipWith Plot.mk chart.styles chart.buffers.data

def observe (result : CallResult) (chart : StoredChart) : Observation where
  result := result
  picture := chart.picture
  axisCount := chart.axes.length
  plotCount := chart.plotCount

def blank (kind : ChartKind) (attributes : Attributes) : StoredChart where
  attributes := attributes
  header := .ofAttributes attributes
  axes := [.ofAttributes attributes]
  allocatedAxes := 0
  styles := []
  buffers := .empty kind
  pending := []

def create (kind : ChartKind) : StoredChart := blank kind {}

/-- The chart without its plots. -/
def frame (chart : StoredChart) : Chart where
  attributes := chart.attributes
  header := chart.header
  axes := chart.axes
  allocatedAxes := chart.allocatedAxes
  series := .empty chart.kind
  pending := chart.pending

/-- The style of the next plot, whose colour is looked up. -/
def nextStyle? (chart : StoredChart) : Option PlotStyle :=
  PlotColor.palette[chart.plotCount % PlotColor.palette.length]?.map fun color =>
    { chart.frame.styleForPlot with color := color }

/-- Add a plot: its style to the one list, its buffer to the other. -/
def register (chart : StoredChart) : Option (CallResult × StoredChart) := do
  let style ← chart.nextStyle?
  return (.added ⟨chart.plotCount, style.name, style.color, style.axis⟩,
    { chart with
      header := chart.frame.headerForPlot
      axes := chart.frame.axesForPlot
      allocatedAxes := chart.allocatedAxes + if chart.frame.asksForAxis then 1 else 0
      styles := chart.styles ++ [style]
      buffers := chart.buffers.grow (TimeTrace.ageLimit chart.attributes.maxAgeSeconds.toNat) })

def refuse (refusal : Refusal) (chart : StoredChart) : Option (CallResult × StoredChart) :=
  some (.refused refusal, chart)

def checkRoom (chart : StoredChart) : Except Refusal Unit :=
  match chart.kind.mostPlots? with
  | some most =>
      if chart.plotCount < most then .ok () else .error (.tooManyPlots chart.kind most)
  | none => .ok ()

def addPlot (chart : StoredChart) : Option (CallResult × StoredChart) :=
  match chart.checkRoom with
  | .ok _ => chart.register
  | .error refusal => chart.refuse refusal

/-- Do a step with a plot once it is known to be there. -/
def withPlot (index : Nat) (next? : Option StoredChart) (chart : StoredChart) :
    Option (CallResult × StoredChart) :=
  if index < chart.plotCount then next?.map (Prod.mk .done)
  else chart.refuse (.noSuchPlot chart.kind index chart.plotCount)

def record (index : Nat) (edits : List Edit) (buffers : Buffers) (chart : StoredChart) :
    StoredChart :=
  { chart with
    buffers := buffers
    pending := chart.pending ++ edits.map fun edit => ⟨index, edit⟩ }

/-- Do something with the buffer at an index, which must be there. -/
def actOn {α : Type} (index : Nat) (act? : α → Option (α × List Edit)) (make : List α → Buffers)
    (contents : List α) (chart : StoredChart) : Option StoredChart := do
  let content ← contents[index]?
  let (next, edits) ← act? content
  return chart.record index edits (make (contents.set index next))

/-- Write the bar with the number that comes next, at the position before this number. -/
def writeBar (index : Nat) (y : Binary64) (bars : List Point) (counter : Nat)
    (chart : StoredChart) :
    Option StoredChart := do
  let position ← counter.ppred
  let bar : Point := ⟨.ofNat counter, y⟩
  let bars := if position < bars.length then bars.set position bar else bars ++ [bar]
  return chart.record index [.setPoint position bar] (.bar bars (counter + 1))

def addValue (now : Int) (index : Nat) (y : Binary64) (chart : StoredChart) :
    Option (CallResult × StoredChart) :=
  match chart.buffers with
  | .xy _ => chart.refuse (.unsupported .xy .sequential)
  | .time traces =>
      chart.withPlot index (chart.actOn index (TimeTrace.insertAt? ⟨now, y⟩) .time traces)
  | .bar bars counter => chart.withPlot index (chart.writeBar index y bars counter)
  | .dial values =>
      chart.withPlot index (chart.actOn index (fun _ => some (y, [.setValue y])) .dial values)

def addPoint (index : Nat) (point : Point) (chart : StoredChart) :
    Option (CallResult × StoredChart) :=
  match chart.buffers with
  | .xy traces =>
      let write (trace : CursorTrace) := some (trace.write point, [trace.writeEdit point])
      chart.withPlot index (chart.actOn index write .xy traces)
  | _ => chart.refuse (.unsupported chart.kind .point)

def addTimed (index : Nat) (time : Int) (y : Binary64) (chart : StoredChart) :
    Option (CallResult × StoredChart) :=
  match chart.buffers with
  | .time traces =>
      chart.withPlot index (chart.actOn index (TimeTrace.insertAt? ⟨time, y⟩) .time traces)
  | _ => chart.refuse (.unsupported chart.kind .timed)

def clear (index : Nat) (chart : StoredChart) : Option (CallResult × StoredChart) :=
  chart.withPlot index <|
    match chart.buffers with
    | .time traces =>
        chart.actOn index (fun trace => some ({ trace with values := [] }, [.clearPoints]))
          .time traces
    | .bar _ _ => some (chart.record index [.clearPoints] (.bar [] 1))
    | .xy traces => chart.actOn index (fun _ => some ({}, [.clearPoints])) .xy traces
    | .dial values => chart.actOn index (fun _ => some (.zero, [.setValue .zero])) .dial values

def replot (index : Nat) (chart : StoredChart) : Option (CallResult × StoredChart) :=
  chart.withPlot index <|
    match chart.buffers with
    | .bar bars _ => some { chart with buffers := .bar bars 1 }
    | .xy traces => chart.actOn index (fun trace => some (trace.rewind, [])) .xy traces
    | .time _ | .dial _ => some chart

def setAttribute (name value : String) (chart : StoredChart) : Option (CallResult × StoredChart) :=
  match chart.attributes.set name value with
  | .ok attributes => some (.done, { chart with attributes := attributes })
  | .error refusal => chart.refuse refusal

/-- The result of a call and the chart after it, unless an access fails. -/
def call : ChartCall → StoredChart → Option (CallResult × StoredChart)
  | .setAttribute name value, chart => chart.setAttribute name value
  | .init, chart => some (.done, blank chart.kind chart.attributes)
  | .addPlot, chart => chart.addPlot
  | .addValue now index y, chart => chart.addValue now index y
  | .addPoint index point, chart => chart.addPoint index point
  | .addTimed index time y, chart => chart.addTimed index time y
  | .clear index, chart => chart.clear index
  | .replot index, chart => chart.replot index
  | .takeChanges, chart => some (.taken chart.pending, { chart with pending := [] })

/-- What is seen in the course of some calls and the chart after them, unless an access fails. -/
def run : List ChartCall → StoredChart → Option (List Observation × StoredChart)
  | [], chart => some ([], chart)
  | call :: calls, chart => do
      let (result, next) ← chart.call call
      let (observations, last) ← next.run calls
      return (next.observe result :: observations, last)

theorem withPlot_of_le {chart : StoredChart} {index : Nat} (h : chart.plotCount ≤ index)
    (next? : Option StoredChart) : chart.withPlot index next? =
      some (.refused (.noSuchPlot chart.kind index chart.plotCount), chart) :=
  if_neg (Nat.not_lt.mpr h)

end StoredChart

/-- The plot that a call on a chart of a kind looks for first. -/
def ChartCall.plot? (kind : ChartKind) : ChartCall → Option Nat
  | addValue _ index _ => if kind = .xy then none else some index
  | addPoint index _ => if kind = .xy then some index else none
  | addTimed index _ _ => if kind = .time then some index else none
  | clear index | replot index => some index
  | setAttribute _ _ | init | addPlot | takeChanges => none

/-- The data that plots of a kind of chart have. -/
def PlotData.Suits (kind : ChartKind) (data : PlotData) : Prop :=
  if kind = .dial then ∃ x, data = .value x else ∃ points, data = .points points

/-- The shape of a chart as it is stored: a buffer for each plot, no plot beyond those that are
counted, and all of them in the picture. -/
structure StoredChart.HasShape (kind : ChartKind) (chart : StoredChart) : Prop where
  sameKind : chart.kind = kind
  fit : chart.buffers.Fit chart.plotCount
  noSuchPlot : ∀ (call : ChartCall) (index : Nat), call.plot? kind = some index →
    chart.plotCount ≤ index →
      chart.call call = some (.refused (.noSuchPlot kind index chart.plotCount), chart)
  drawn : chart.picture.plots.length = chart.plotCount
  suits : ∀ plot ∈ chart.picture.plots, plot.data.Suits kind

/-- If this plot is not there, the call is refused. -/
theorem StoredChart.call_of_le {chart : StoredChart} {call : ChartCall} {index : Nat}
    (hplot : call.plot? chart.kind = some index) (hle : chart.plotCount ≤ index) :
    chart.call call = some (.refused (.noSuchPlot chart.kind index chart.plotCount), chart) := by
  unfold kind at hplot
  cases call with
  | setAttribute | init | addPlot | takeChanges => cases hplot
  | clear | replot =>
      cases hplot
      exact withPlot_of_le hle _
  | addValue now i y =>
      change chart.addValue now i y = _
      unfold addValue
      cases hbuffers : chart.buffers with
      | xy => rw [hbuffers] at hplot; cases hplot
      | time | bar | dial => rw [hbuffers] at hplot; cases hplot; exact withPlot_of_le hle _
  | addPoint i point =>
      change chart.addPoint i point = _
      unfold addPoint
      cases hbuffers : chart.buffers with
      | xy => rw [hbuffers] at hplot; cases hplot; exact withPlot_of_le hle _
      | time | bar | dial => rw [hbuffers] at hplot; cases hplot
  | addTimed i time y =>
      change chart.addTimed i time y = _
      unfold addTimed
      cases hbuffers : chart.buffers with
      | time => rw [hbuffers] at hplot; cases hplot; exact withPlot_of_le hle _
      | bar | xy | dial => rw [hbuffers] at hplot; cases hplot

namespace TimeTrace

theorem placeAt?_eq (v : TimedValue) (values : List TimedValue) :
    placeAt? v values = some (place v values) := by
  have hcut := earlier_append_notEarlier v.time values
  have hinsert := insertIdx_length_append (earlier v.time values) (notEarlier v.time values) v
  have hle : (earlier v.time values).length ≤ values.length := (List.takeWhile_sublist _).length_le
  rw [hcut] at hinsert
  unfold placeAt? place
  dsimp only
  by_cases h : hasTime v.time values = true
  · rw [if_pos h, if_pos h]
    unfold hasTime at h
    generalize earlier v.time values = front at hcut
    cases hback : notEarlier v.time values with
    | nil =>
        rw [hback] at h
        cases h
    | cons old back =>
        rw [hback] at h hcut
        have htime : old.time = v.time := beq_iff_eq.mp h
        simp [← hcut, htime]
  · rw [if_neg h, if_neg h, if_pos hle, hinsert]

theorem insertAt?_eq (v : TimedValue) (trace : TimeTrace) :
    trace.insertAt? v = some (trace.insert v, trace.insertEdits v) := by
  have hstale := staleCount_le trace.maxAge (place v trace.values)
  rw [insertAt?, placeAt?_eq]
  exact if_pos hstale

end TimeTrace

end ChartBoard
