import ChartBoard.Client.PlotSettings
import ChartBoard.Proofs.Chart.Acceptance
import ChartBoard.Proofs.Protocol.WrittenLines

/-!
What becomes of the settings of a plot. Each of them is written as a text, and the text is read as
the value that was written; only a name loses the blanks behind it. So attributes that are assigned
the settings one after the other have all of them (`Attributes.assignAll_assignments`), and a plot
that is added then is drawn as they say, on an axis that they describe if it asks for one
(`Chart.added_of_addPlot`). That the axis is where the style of the plot points to hangs on an
invariant: a chart has the axes that its plots have asked for (`Chart.HasAllocated`).
-/

namespace ChartBoard

namespace Text

/-- A text without the blanks behind it. -/
def endTrimmed (text : String) : String := String.ofList (trimEnd text.toList)

theorem endTrimmed_free {text : String} (h : Free isBlank text.toList) :
    endTrimmed text = text := by
  rw [endTrimmed, trimEnd_free h, String.ofList_toList]

theorem endTrimmed_toString (n : Nat) : endTrimmed (toString n) = toString n := by
  refine endTrimmed_free ?_
  rw [toList_toString]
  exact (allDigits_toDigits n).free not_blank_of_isDigit

end Text

open Text

namespace Attributes

section Values

theorem readFlag?_flagText (flag : Bool) : readFlag? (flagText flag) = some flag := by
  cases flag <;> decide

theorem readNumber?_text {x : Binary64} (h : x.isFinite = true) : readNumber? x.text = some x := by
  rw [readNumber?, Command.readNumber_text h]
  rfl

theorem readWord32?_toString (n : UInt32) : readWord32? (toString n.toNat) = some n := by
  have hword : n.toNat < word32 := n.toNat_lt
  rw [readWord32?, toList_toString, readNat?_toDigits hword, Option.map_some, UInt32.ofNat_toNat]

theorem readWord64?_toString (n : UInt64) : readWord64? (toString n.toNat) = some n := by
  have hword : n.toNat < word64 := n.toNat_lt
  rw [readWord64?, toList_toString, readNat?_toDigits hword, Option.map_some, UInt64.ofNat_toNat]

theorem endTrimmed_flagText (flag : Bool) : endTrimmed (flagText flag) = flagText flag := by
  cases flag <;> decide

theorem endTrimmed_text (x : Binary64) : endTrimmed x.text = x.text :=
  endTrimmed_free (x.digitsAnd_text.free not_blank_of_isDigit (by decide))

end Values

/-- Attributes with one value from others, a name without the blanks behind it. -/
def take (source : Attributes) (item : Attribute) (a : Attributes) : Attributes :=
  match item with
  | .plotTitle => { a with plotTitle := endTrimmed source.plotTitle }
  | .plotName => { a with plotName := endTrimmed source.plotName }
  | .xAxisName => { a with xAxisName := endTrimmed source.xAxisName }
  | .yAxisName => { a with yAxisName := endTrimmed source.yAxisName }
  | .enableLines => { a with lines := source.lines }
  | .enableShapes => { a with shapes := source.shapes }
  | .enableAutoscale => { a with autoscale := source.autoscale }
  | .minScaleValue => { a with minScale := source.minScale }
  | .maxScaleValue => { a with maxScale := source.maxScale }
  | .maxAgeSeconds => { a with maxAgeSeconds := source.maxAgeSeconds }
  | .enableLogYAxis => { a with logY := source.logY }
  | .enableZeroOnXScale => { a with zeroOnX := source.zeroOnX }
  | .enableZeroOnYScale => { a with zeroOnY := source.zeroOnY }
  | .enableLegend => { a with legend := source.legend }
  | .tickCount => { a with tickCount := source.tickCount }
  | .lineWidth => { a with lineWidth := source.lineWidth }

section Texts

variable {source : Attributes} (hmin : source.minScale.isFinite = true)
  (hmax : source.maxScale.isFinite = true)

include hmin hmax

/-- The text of an attribute is taken as its value. -/
theorem put_text (item : Attribute) (a : Attributes) :
    a.put item (endTrimmed (source.text item)) = .ok (source.take item a) := by
  unfold put take text
  cases item with
  | plotTitle | plotName | xAxisName | yAxisName => rfl
  | enableLines | enableShapes | enableAutoscale | enableLogYAxis | enableZeroOnXScale
  | enableZeroOnYScale | enableLegend =>
      dsimp only
      rw [endTrimmed_flagText, readFlag?_flagText]
  | minScaleValue =>
      dsimp only
      rw [endTrimmed_text, readNumber?_text hmin]
  | maxScaleValue =>
      dsimp only
      rw [endTrimmed_text, readNumber?_text hmax]
  | maxAgeSeconds =>
      dsimp only
      rw [endTrimmed_toString, readWord64?_toString]
  | tickCount | lineWidth =>
      dsimp only
      rw [endTrimmed_toString, readWord32?_toString]

end Texts

/-- Assign values to attributes one after the other, each without the blanks behind it. -/
def assignAll (entries : List (Attribute × String)) (a : Attributes) : Except Refusal Attributes :=
  entries.foldlM (fun a (item, value) => a.set item.name (endTrimmed value)) a

theorem assignAll_texts {source : Attributes} (hmin : source.minScale.isFinite = true)
    (hmax : source.maxScale.isFinite = true) (items : List Attribute) (a : Attributes) :
    a.assignAll (items.map fun item => (item, source.text item)) =
      .ok (items.foldl (fun a item => source.take item a) a) := by
  induction items generalizing a with
  | nil => rfl
  | cons item items ih =>
      have hset : a.set item.name (endTrimmed (source.text item)) = .ok (source.take item a) := by
        rw [Attributes.set, Attribute.ofName?_name]
        dsimp only
        rw [put_text hmin hmax]
        rfl
      rw [assignAll, List.map_cons, List.foldlM_cons]
      dsimp only
      rw [hset]
      exact ih (source.take item a)

end Attributes

namespace PlotSettings

/-- The attributes that the settings of a plot stand for, in the order in which they are sent. -/
def items : List Attribute :=
  [.plotName, .xAxisName, .yAxisName, .enableLines, .lineWidth, .enableShapes, .enableAutoscale,
    .minScaleValue, .maxScaleValue, .maxAgeSeconds, .enableLogYAxis, .enableZeroOnXScale,
    .enableZeroOnYScale, .tickCount]

/-- The settings of a plot as attributes. -/
def attributes (p : PlotSettings) : Attributes where
  plotName := p.plotName
  xAxisName := p.xAxisName
  yAxisName := p.yAxisName
  lines := p.lines
  shapes := p.shapes
  autoscale := p.autoscale
  minScale := p.minScale
  maxScale := p.maxScale
  maxAgeSeconds := p.maxAgeSeconds
  logY := p.logY
  zeroOnX := p.zeroOnX
  zeroOnY := p.zeroOnY
  tickCount := p.tickCount
  lineWidth := p.lineWidth

theorem assignments_eq (p : PlotSettings) :
    p.assignments = items.map fun item => (item, p.attributes.text item) := rfl

/-- Attributes with all the settings of a plot, and beyond these as they were. -/
def configure (p : PlotSettings) (a : Attributes) : Attributes :=
  { a with
    plotName := endTrimmed p.plotName
    xAxisName := endTrimmed p.xAxisName
    yAxisName := endTrimmed p.yAxisName
    lines := p.lines
    lineWidth := p.lineWidth
    shapes := p.shapes
    autoscale := p.autoscale
    minScale := p.minScale
    maxScale := p.maxScale
    maxAgeSeconds := p.maxAgeSeconds
    logY := p.logY
    zeroOnX := p.zeroOnX
    zeroOnY := p.zeroOnY
    tickCount := p.tickCount }

/-- The axis that the settings of a plot describe. -/
def axis (p : PlotSettings) : Axis where
  name := endTrimmed p.yAxisName
  logScale := p.logY
  autoscale := p.autoscale
  min := p.minScale
  max := p.maxScale
  includeZero := p.zeroOnY
  tickCount := p.tickCount

/-- A plot of this kind of chart asks for an axis: the axis has a name, or the plot is a needle. -/
def AsksForAxis (p : PlotSettings) (kind : ChartKind) : Prop :=
  endTrimmed p.yAxisName ≠ "" ∨ kind = .dial

/-- A plot is drawn as its settings say. -/
structure Styles (p : PlotSettings) (style : PlotStyle) : Prop where
  name : style.name = endTrimmed p.plotName
  lines : style.lines = p.lines
  shapes : style.shapes = p.shapes
  lineWidth : style.lineWidth = p.lineWidth

/-- A plot has been added to a chart as its settings say: behind the plots before, and on an axis
that they describe if it asks for one. -/
structure Added (p : PlotSettings) (before after : Chart) : Prop where
  attributes : after.attributes = p.configure before.attributes
  plotCount : after.plotCount = before.plotCount + 1
  plot : ∃ plot, after.picture.plots = before.picture.plots ++ [plot] ∧ p.Styles plot.style ∧
    (p.AsksForAxis before.kind → after.picture.axes[plot.style.axis]? = some p.axis)
  sameAxes : ¬p.AsksForAxis before.kind → after.picture.axes = before.picture.axes

end PlotSettings

/-- All settings of a plot are taken, each by the attribute of its own. -/
theorem Attributes.assignAll_assignments {p : PlotSettings} (hmin : p.minScale.isFinite = true)
    (hmax : p.maxScale.isFinite = true) (a : Attributes) :
    a.assignAll p.assignments = .ok (p.configure a) := by
  have hmin' : p.attributes.minScale.isFinite = true := hmin
  rw [p.assignments_eq, assignAll_texts hmin' hmax]
  simp only [PlotSettings.items, List.foldl_cons, List.foldl_nil, take]
  rfl

namespace Series

/-- A plot is added behind the others, without values. -/
theorem draw_add (style : PlotStyle) (maxAge : Nat) (series : Series) :
    ∃ data, (series.add style maxAge).draw = series.draw ++ [⟨style, data⟩] := by
  cases series with
  | time plots => exact ⟨.points [], List.map_append⟩
  | bar plots | xy plots => exact ⟨.points [], List.map_append⟩
  | dial plots => exact ⟨.value .zero, List.map_append⟩

end Series

namespace Chart

/-- A chart whose attributes have all the settings of a plot. -/
def configured (p : PlotSettings) (chart : Chart) : Chart :=
  { chart with attributes := p.configure chart.attributes }

/-- The axes that plots have asked for are there. -/
def HasAllocated (chart : Chart) : Prop := chart.allocatedAxes ≤ chart.axes.length

theorem hasAllocated_blank (kind : ChartKind) (attributes : Attributes) :
    (blank kind attributes).HasAllocated := Nat.zero_le _

section Axes

variable {chart : Chart} (h : chart.HasAllocated)

include h

theorem HasAllocated.addPlot {after : Chart} (hadd : chart.addPlot = .ok after) :
    after.HasAllocated := by
  obtain rfl := eq_of_addPlot hadd
  unfold HasAllocated axesForPlot at *
  dsimp only
  cases chart.asksForAxis with
  | false => exact h
  | true =>
      simp only [Bool.not_true, Bool.false_eq_true, if_false, if_true]
      split
      · rw [List.length_set]
        omega
      · rw [List.length_append, List.length_singleton]
        omega

/-- A plot that asks for an axis is drawn on it. -/
theorem HasAllocated.getElem?_axesForPlot (hasks : chart.asksForAxis = true) :
    chart.axesForPlot[chart.styleForPlot.axis]? = some (.ofAttributes chart.attributes) := by
  unfold HasAllocated at h
  have haxis : chart.styleForPlot.axis = chart.allocatedAxes := by
    rw [styleForPlot, hasks]
    rfl
  rw [haxis, axesForPlot, hasks]
  by_cases hroom : chart.allocatedAxes < chart.axes.length
  · simp [hroom]
  · have hlast : chart.allocatedAxes = chart.axes.length := by omega
    simp [hlast]

end Axes

theorem axesForPlot_of_not_asked {chart : Chart} (h : ¬chart.asksForAxis = true) :
    chart.axesForPlot = chart.axes := by
  rw [axesForPlot, if_pos (by simpa using h)]

/-- A plot that is added to a chart with all its settings is added as they say. -/
theorem added_of_addPlot {p : PlotSettings} {before after : Chart}
    (hallocated : before.HasAllocated)
    (hadd : (before.configured p).addPlot = .ok after) : p.Added before after := by
  have hasks : (before.configured p).asksForAxis = true ↔ p.AsksForAxis before.kind := by
    simp [asksForAxis, PlotSettings.AsksForAxis, PlotSettings.configure, configured, kind, or_comm]
  have hallocated' : (before.configured p).HasAllocated := hallocated
  have hcount := (of_addPlot hadd).2.2.2.1
  obtain rfl := eq_of_addPlot hadd
  obtain ⟨data, hdraw⟩ := before.series.draw_add _ _
  refine ⟨rfl, hcount, ⟨_, hdraw, ⟨rfl, rfl, rfl, rfl⟩, ?_⟩, ?_⟩
  · intro h
    exact hallocated'.getElem?_axesForPlot (hasks.mpr h)
  · intro h
    exact axesForPlot_of_not_asked (mt hasks.mp h)

end Chart

end ChartBoard
