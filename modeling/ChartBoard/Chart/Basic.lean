import ChartBoard.Chart.CursorTrace
import ChartBoard.Chart.TimeTrace

/-!
Charts. A chart has attributes, a header, axes and plots. What its plots hold
depends on its kind: traces over time, traces written at a cursor, or the positions
of needles. Every value that a chart takes leaves a change for the picture of it.
-/

namespace ChartBoard

/-- What a chart keeps of a plot. -/
structure Styled (α : Type) where
  style : PlotStyle
  content : α
deriving DecidableEq

/-- The plots of a chart, in the order in which they were added. The bars of a bar
chart are one trace at most. -/
inductive Series where
  | time (plots : List (Styled TimeTrace))
  | bar (plots : List (Styled CursorTrace))
  | xy (plots : List (Styled CursorTrace))
  | dial (plots : List (Styled Binary64))
deriving DecidableEq

namespace Series

def empty : ChartKind → Series
  | .time => time []
  | .bar => bar []
  | .xy => xy []
  | .dial => dial []

def kind : Series → ChartKind
  | time _ => .time
  | bar _ => .bar
  | xy _ => .xy
  | dial _ => .dial

def styles : Series → List PlotStyle
  | time plots => plots.map Styled.style
  | bar plots | xy plots => plots.map Styled.style
  | dial plots => plots.map Styled.style

def count (series : Series) : Nat := series.styles.length

/-- The plots as they are drawn. -/
def draw : Series → List Plot
  | time plots => plots.map fun p => ⟨p.style, .points (p.content.values.map TimedValue.point)⟩
  | bar plots | xy plots => plots.map fun p => ⟨p.style, .points p.content.points⟩
  | dial plots => plots.map fun p => ⟨p.style, .value p.content⟩

/-- Add a plot without values. A trace over time keeps the age that is allowed when
it is added. -/
def add (style : PlotStyle) (maxAge : Nat) : Series → Series
  | time plots => time (plots ++ [⟨style, { maxAge := maxAge }⟩])
  | bar plots => bar (plots ++ [⟨style, {}⟩])
  | xy plots => xy (plots ++ [⟨style, {}⟩])
  | dial plots => dial (plots ++ [⟨style, .zero⟩])

end Series

/-- Change the content of one plot. -/
def Styled.update {α : Type} (index : Nat) (f : α → α) (plots : List (Styled α)) :
    List (Styled α) :=
  plots.modify index fun p => { p with content := f p.content }

/-- The most plots that a chart of a kind holds. -/
def ChartKind.mostPlots? : ChartKind → Option Nat
  | bar => some 1
  | dial => some 2
  | _ => none

structure Chart where
  attributes : Attributes
  header : Header
  axes : List Axis
  /-- The number of axes that plots have asked for. -/
  allocatedAxes : Nat
  series : Series
  /-- The changes since the chart was last pictured. -/
  pending : List Change
deriving DecidableEq

namespace Chart

def kind (chart : Chart) : ChartKind := chart.series.kind

def plotCount (chart : Chart) : Nat := chart.series.count

/-- A chart without plots, made from attributes: one axis that no plot has asked
for yet. -/
def blank (kind : ChartKind) (attributes : Attributes) : Chart where
  attributes := attributes
  header := .ofAttributes attributes
  axes := [.ofAttributes attributes]
  allocatedAxes := 0
  series := .empty kind
  pending := []

def create (kind : ChartKind) : Chart := blank kind {}

/-- Start again with the attributes as they are. -/
def init (chart : Chart) : Chart := blank chart.kind chart.attributes

def setAttribute (name value : String) (chart : Chart) : Except Refusal Chart :=
  (chart.attributes.set name value).map fun attributes =>
    { chart with attributes := attributes }

/-- The picture of the chart as it is. -/
def picture (chart : Chart) : Picture where
  kind := chart.kind
  header := chart.header
  axes := chart.axes
  plots := chart.series.draw

/-- The header when a plot is added: names that are set by then replace those
shown. -/
def headerForPlot (chart : Chart) : Header :=
  let a := chart.attributes
  { chart.header with
    title := if a.plotTitle.isEmpty then chart.header.title else a.plotTitle
    xAxisName := if a.xAxisName.isEmpty then chart.header.xAxisName else a.xAxisName }

/-- Whether the next plot asks for an axis: needles always do, other plots when the
axis has a name. -/
def asksForAxis (chart : Chart) : Bool :=
  chart.kind == .dial || !chart.attributes.yAxisName.isEmpty

/-- The first plot that asks for an axis takes the one that is there; later ones
add theirs. -/
def axesForPlot (chart : Chart) : List Axis :=
  let axis := Axis.ofAttributes chart.attributes
  if !chart.asksForAxis then
    chart.axes
  else if chart.allocatedAxes < chart.axes.length then
    chart.axes.set chart.allocatedAxes axis
  else
    chart.axes ++ [axis]

/-- The style of the next plot, drawn on the axis that was asked for last. -/
def styleForPlot (chart : Chart) : PlotStyle :=
  let a := chart.attributes
  let allocated := chart.allocatedAxes + if chart.asksForAxis then 1 else 0
  { name := a.plotName
    color := .ofIndex chart.plotCount
    axis := allocated - 1
    lines := a.lines
    shapes := a.shapes
    lineWidth := a.lineWidth }

/-- Whether the chart has room for one more plot. -/
def checkRoom (chart : Chart) : Except Refusal Unit :=
  match chart.kind.mostPlots? with
  | some most =>
      if chart.plotCount < most then .ok () else .error (.tooManyPlots chart.kind most)
  | none => .ok ()

/-- Add a plot styled by the attributes as they are. -/
def addPlot (chart : Chart) : Except Refusal Chart := do
  chart.checkRoom
  return { chart with
    header := chart.headerForPlot
    axes := chart.axesForPlot
    allocatedAxes := chart.allocatedAxes + if chart.asksForAxis then 1 else 0
    series := chart.series.add chart.styleForPlot
      (TimeTrace.ageLimit chart.attributes.maxAgeSeconds.toNat) }

/-- Whether there is a plot with the given index. -/
def checkPlot (index : Nat) (chart : Chart) : Except Refusal Unit :=
  if index < chart.plotCount then
    .ok ()
  else
    .error (.noSuchPlot chart.kind index chart.plotCount)

/-- Take new series together with the edits that lead to them. -/
def record (index : Nat) (edits : List Edit) (series : Series) (chart : Chart) : Chart :=
  { chart with
    series := series
    pending := chart.pending ++ edits.map fun edit => ⟨index, edit⟩ }

/-- Put a value into a trace over time. -/
def insertTimed (index : Nat) (v : TimedValue) (plots : List (Styled TimeTrace))
    (chart : Chart) : Chart :=
  let edits := match plots[index]? with
    | some p => p.content.insertEdits v
    | none => []
  chart.record index edits (.time (Styled.update index (TimeTrace.insert v) plots))

/-- The edits of writing a point at the cursor of a trace. -/
def writeEdits (index : Nat) (point : Point) (plots : List (Styled CursorTrace)) :
    List Edit :=
  match plots[index]? with
  | some p => [p.content.writeEdit point]
  | none => []

/-- The bar that a value becomes: bars are numbered from one. -/
def nextBar (index : Nat) (y : Binary64) (plots : List (Styled CursorTrace)) : Point :=
  match plots[index]? with
  | some p => ⟨.ofNat (p.content.cursor + 1), y⟩
  | none => ⟨.ofNat 1, y⟩

/-- Give one value to a plot; a chart over time keeps it under the reading of the
clock. -/
def addValue (now : Int) (index : Nat) (y : Binary64) (chart : Chart) :
    Except Refusal Chart :=
  match chart.series with
  | .xy _ => .error (.unsupported .xy .sequential)
  | .time plots => do
      chart.checkPlot index
      return chart.insertTimed index ⟨now, y⟩ plots
  | .bar plots => do
      chart.checkPlot index
      let bar := nextBar index y plots
      return chart.record index (writeEdits index bar plots)
        (.bar (Styled.update index (CursorTrace.write bar) plots))
  | .dial plots => do
      chart.checkPlot index
      return chart.record index [.setValue y] (.dial (Styled.update index (fun _ => y) plots))

/-- Give a point to a plot in the plane. -/
def addPoint (index : Nat) (point : Point) (chart : Chart) : Except Refusal Chart :=
  match chart.series with
  | .xy plots => do
      chart.checkPlot index
      return chart.record index (writeEdits index point plots)
        (.xy (Styled.update index (CursorTrace.write point) plots))
  | _ => .error (.unsupported chart.kind .point)

/-- Give a value with its time, in milliseconds, to a plot over time. -/
def addTimed (index : Nat) (time : Int) (y : Binary64) (chart : Chart) :
    Except Refusal Chart :=
  match chart.series with
  | .time plots => do
      chart.checkPlot index
      return chart.insertTimed index ⟨time, y⟩ plots
  | _ => .error (.unsupported chart.kind .timed)

/-- Empty a plot; a needle goes to zero. Its style stays. -/
def clear (index : Nat) (chart : Chart) : Except Refusal Chart := do
  chart.checkPlot index
  match chart.series with
  | .time plots =>
      return chart.record index [.clearPoints]
        (.time (Styled.update index (fun trace => { trace with values := [] }) plots))
  | .bar plots =>
      return chart.record index [.clearPoints]
        (.bar (Styled.update index (fun _ => {}) plots))
  | .xy plots =>
      return chart.record index [.clearPoints]
        (.xy (Styled.update index (fun _ => {}) plots))
  | .dial plots =>
      return chart.record index [.setValue .zero]
        (.dial (Styled.update index (fun _ => .zero) plots))

/-- Begin to write a plot over from its first point. Traces over time and needles
have nothing to rewind. -/
def replot (index : Nat) (chart : Chart) : Except Refusal Chart := do
  chart.checkPlot index
  match chart.series with
  | .bar plots =>
      return { chart with series := .bar (Styled.update index CursorTrace.rewind plots) }
  | .xy plots =>
      return { chart with series := .xy (Styled.update index CursorTrace.rewind plots) }
  | _ => return chart

/-- The chart once its changes have been taken. -/
def settled (chart : Chart) : Chart := { chart with pending := [] }

end Chart

end ChartBoard
