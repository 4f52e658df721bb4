import ChartBoard.Proofs.Chart.AddedPlots
import ChartBoard.Proofs.Chart.CallOutcomes
import Mathlib.Data.List.DropRight

/-!
What a chart keeps of its attributes. Attributes may be set at any time, but a chart looks at them
only when it starts and when a plot is added. So its header, its axes and the styles of its plots
are told by the attributes at the start and at each addition since (`Chart.additions`), and by
nothing else: `Chart.Framed` says how, and every call keeps it (`Chart.Framed.call`). What is added
later changes no style that is there (`Chart.styles_prefix_call`).
-/

namespace ChartBoard

namespace ChartCall

def startsAgain : ChartCall → Bool
  | init => true
  | _ => false

/-- The calls up to the last one that starts the chart again. -/
def untilStart (calls : List ChartCall) : List ChartCall :=
  calls.rdropWhile fun call => !call.startsAgain

/-- The calls since then. -/
def sinceStart (calls : List ChartCall) : List ChartCall :=
  calls.rtakeWhile fun call => !call.startsAgain

theorem untilStart_append_sinceStart (calls : List ChartCall) :
    untilStart calls ++ sinceStart calls = calls := List.rdropWhile_append_rtakeWhile

theorem ne_init_of_mem_sinceStart {calls : List ChartCall} {call : ChartCall}
    (h : call ∈ sinceStart calls) : call ≠ .init := by
  rintro rfl
  cases List.mem_rtakeWhile_imp h

/-- The calls up to the last start are none, or end with it. -/
theorem untilStart_cases (calls : List ChartCall) :
    untilStart calls = [] ∨ ∃ before, untilStart calls = before ++ [.init] := by
  induction calls using List.reverseRecOn with
  | nil => exact .inl rfl
  | append_singleton calls call ih =>
      unfold untilStart at ih ⊢
      rw [List.rdropWhile_concat]
      cases call with
      | init => exact .inr ⟨calls, rfl⟩
      | _ => exact ih

end ChartCall

/-- Whether a plot that is added with the attributes asks for an axis. -/
def Attributes.allocates (kind : ChartKind) (a : Attributes) : Bool :=
  kind == .dial || a.yAxisName != ""

open Attributes

/-- The last of some names that is not empty, or the one from before. -/
def lastNamed (names : List String) (start : String) : String :=
  (names.filter fun name => name != "").getLast?.getD start

theorem lastNamed_concat (names : List String) (name start : String) :
    lastNamed (names ++ [name]) start = if name.isEmpty then lastNamed names start else name := by
  unfold lastNamed
  by_cases hname : name = ""
  · simp [hname]
  · simp [hname, List.filter_append]

namespace Chart

/-- The header after plots have been added with the given attributes, since a start with others. -/
def headerAfter (start : Attributes) (added : List Attributes) : Header where
  title := lastNamed (added.map Attributes.plotTitle) start.plotTitle
  xAxisName := lastNamed (added.map Attributes.xAxisName) start.xAxisName
  legend := start.legend
  includeZeroX := start.zeroOnX

/-- The axes then: those that have been asked for, or the one from the start. -/
def axesAfter (kind : ChartKind) (start : Attributes) (added : List Attributes) : List Axis :=
  match added.filter (allocates kind) with
  | [] => [.ofAttributes start]
  | asking => asking.map .ofAttributes

/-- The style of a plot that is added behind others. -/
def styleBehind (kind : ChartKind) (earlier : List Attributes) (a : Attributes) : PlotStyle where
  name := a.plotName
  color := .ofIndex earlier.length
  axis := (earlier ++ [a]).countP (allocates kind) - 1
  lines := a.lines
  shapes := a.shapes
  lineWidth := a.lineWidth

section AxesAfter

variable (kind : ChartKind) (start : Attributes) (added : List Attributes)

theorem length_axesAfter :
    (axesAfter kind start added).length = max 1 (added.countP (allocates kind)) := by
  unfold axesAfter
  rw [List.countP_eq_length_filter]
  cases added.filter (allocates kind) with
  | nil => rfl
  | cons a asking =>
      rw [List.length_map, List.length_cons]
      omega

theorem axesAfter_of_none (h : added.countP (allocates kind) = 0) :
    axesAfter kind start added = [.ofAttributes start] := by
  rw [List.countP_eq_length_filter, List.length_eq_zero_iff] at h
  rw [axesAfter, h]

theorem axesAfter_of_some (h : added.countP (allocates kind) ≠ 0) :
    axesAfter kind start added = (added.filter (allocates kind)).map .ofAttributes := by
  rw [List.countP_eq_length_filter] at h
  unfold axesAfter
  cases hfilter : added.filter (allocates kind) with
  | nil => exact absurd (congrArg List.length hfilter) h
  | cons => rfl

variable {a : Attributes}

theorem axesAfter_concat (h : allocates kind a = true) : axesAfter kind start (added ++ [a]) =
    (added.filter (allocates kind)).map .ofAttributes ++ [.ofAttributes a] := by
  have hsome : (added ++ [a]).countP (allocates kind) ≠ 0 := by
    rw [List.countP_append, List.countP_singleton, if_pos h]
    exact Nat.succ_ne_zero _
  rw [axesAfter_of_some _ _ _ hsome, List.filter_append, List.filter_singleton, h]
  exact List.map_append

theorem axesAfter_concat_of_not (h : ¬allocates kind a = true) :
    axesAfter kind start (added ++ [a]) = axesAfter kind start added := by
  have hfilter : (added ++ [a]).filter (allocates kind) = added.filter (allocates kind) := by
    simp [h]
  rw [axesAfter, axesAfter, hfilter]

end AxesAfter

/-- The attributes of a chart, if the call adds a plot to it. -/
def addition (call : ChartCall) (chart : Chart) : List Attributes :=
  match (chart.call call).1 with
  | .added _ => [chart.attributes]
  | _ => []

/-- The attributes at each of the plots that some calls add, the first one first. -/
def additions : List ChartCall → Chart → List Attributes
  | [], _ => []
  | call :: calls, chart => chart.addition call ++ additions calls (chart.call call).2

theorem additions_concat (calls : List ChartCall) (call : ChartCall) (chart : Chart) :
    chart.additions (calls ++ [call]) =
      chart.additions calls ++ (chart.afterCalls calls).addition call := by
  induction calls generalizing chart with
  | nil => simp [additions, afterCalls]
  | cons first calls ih =>
      rw [List.cons_append, additions, additions, ih, List.append_assoc]
      rfl

/-- A chart has been started with some attributes, and plots have been added with others since. -/
structure Framed (start : Attributes) (added : List Attributes) (chart : Chart) : Prop where
  header : chart.header = headerAfter start added
  axes : chart.axes = axesAfter chart.kind start added
  allocatedAxes : chart.allocatedAxes = added.countP (allocates chart.kind)
  plotCount : chart.plotCount = added.length
  style : ∀ (i : Nat) (a : Attributes), added[i]? = some a →
    chart.series.styles[i]? = some (styleBehind chart.kind (added.take i) a)

theorem framed_blank (kind : ChartKind) (start : Attributes) :
    (blank kind start).Framed start [] where
  header := rfl
  axes := rfl
  allocatedAxes := rfl
  plotCount := plotCount_blank kind start
  style i a h := by cases h

theorem asksForAxis_eq (chart : Chart) :
    chart.asksForAxis = allocates chart.kind chart.attributes := by
  rw [asksForAxis, allocates, Bool.eq_iff_iff]
  simp

section Framed

variable {start : Attributes} {added : List Attributes} {chart : Chart}
  (h : chart.Framed start added)

include h

theorem Framed.headerForPlot :
    chart.headerForPlot = headerAfter start (added ++ [chart.attributes]) := by
  unfold Chart.headerForPlot headerAfter
  rw [List.map_append, List.map_append, List.map_singleton, List.map_singleton, lastNamed_concat,
    lastNamed_concat, h.header]
  rfl

theorem Framed.axesForPlot :
    chart.axesForPlot = axesAfter chart.kind start (added ++ [chart.attributes]) := by
  by_cases hasks : chart.asksForAxis = true
  · rw [asksForAxis_eq] at hasks
    rw [axesAfter_concat _ _ _ hasks]
    unfold Chart.axesForPlot
    dsimp only
    rw [asksForAxis_eq, hasks, h.allocatedAxes, h.axes]
    -- the first plot that asks takes the axis that is there
    by_cases hnone : added.countP (allocates chart.kind) = 0
    · rw [axesAfter_of_none _ _ _ hnone, hnone]
      rw [List.countP_eq_length_filter, List.length_eq_zero_iff] at hnone
      rw [hnone]
      rfl
    · rw [axesAfter_of_some _ _ _ hnone, List.length_map, List.countP_eq_length_filter]
      simp
  · rw [axesForPlot_of_not_asked hasks, h.axes, axesAfter_concat_of_not]
    rwa [asksForAxis_eq] at hasks

theorem Framed.styleForPlot :
    chart.styleForPlot = styleBehind chart.kind added chart.attributes := by
  unfold Chart.styleForPlot styleBehind
  dsimp only
  rw [asksForAxis_eq, h.allocatedAxes, h.plotCount, List.countP_append, List.countP_singleton]

theorem Framed.addPlot {next : Chart} (hadd : chart.addPlot = .ok next) :
    next.Framed start (added ++ [chart.attributes]) := by
  have hkind := (of_addPlot hadd).2.1
  have hcount := (of_addPlot hadd).2.2.2.1
  have hlength : chart.series.styles.length = added.length := h.plotCount
  have hstyles : next.series.styles =
      chart.series.styles ++ [styleBehind chart.kind added chart.attributes] := by
    rw [eq_of_addPlot hadd, ← h.styleForPlot]
    exact styles_add _ _ _
  refine ⟨?_, ?_, ?_, ?_, fun i a hi => ?_⟩
  · rw [eq_of_addPlot hadd]
    exact h.headerForPlot
  · rw [hkind, eq_of_addPlot hadd]
    exact h.axesForPlot
  · rw [hkind, eq_of_addPlot hadd, List.countP_append, List.countP_singleton, ← h.allocatedAxes,
      ← asksForAxis_eq]
  · rw [hcount, h.plotCount, List.length_append, List.length_singleton]
  · rw [hkind, hstyles]
    by_cases hold : i < added.length
    · rw [List.getElem?_append_left hold] at hi
      rw [List.getElem?_append_left (hlength ▸ hold), List.take_append_of_le_length (by omega)]
      exact h.style i a hi
    · obtain ⟨hlt, -⟩ := List.getElem?_eq_some_iff.mp hi
      rw [List.length_append, List.length_singleton] at hlt
      obtain rfl : i = added.length := by omega
      rw [List.getElem?_concat_length, Option.some.injEq] at hi
      rw [← hlength, List.getElem?_concat_length, hlength, List.take_left, hi]

theorem Framed.call {call : ChartCall} (hcall : call ≠ .init) :
    (chart.call call).2.Framed start (added ++ chart.addition call) := by
  have houtcome := call_outcome call chart
  unfold addition
  generalize chart.call call = done at houtcome ⊢
  cases houtcome with
  | refused | full =>
      rw [List.append_nil]
      exact h
  | configures | settles =>
      rw [List.append_nil]
      exact ⟨h.header, h.axes, h.allocatedAxes, h.plotCount, h.style⟩
  | starts => exact absurd rfl hcall
  | addsPlot hadd => exact h.addPlot hadd
  | works _ hadvances =>
      rw [List.append_nil]
      refine ⟨hadvances.header.trans h.header, ?_, ?_, hadvances.plotCount.trans h.plotCount, ?_⟩
      · rw [hadvances.axes, hadvances.kind, h.axes]
      · rw [hadvances.allocatedAxes, hadvances.kind, h.allocatedAxes]
      · rw [hadvances.styles, hadvances.kind]
        exact h.style

end Framed

theorem framed_afterCalls {start : Attributes} {chart : Chart} (h : chart.Framed start [])
    {calls : List ChartCall} (hcalls : ∀ call ∈ calls, call ≠ .init) :
    (chart.afterCalls calls).Framed start (chart.additions calls) := by
  induction calls using List.reverseRecOn with
  | nil => exact h
  | append_singleton calls call ih =>
      rw [List.forall_mem_append, List.forall_mem_singleton] at hcalls
      rw [afterCalls_concat, additions_concat]
      exact (ih hcalls.1).call hcalls.2

/-- The attributes that a new chart had when calls started it the last time. -/
def startedWith (kind : ChartKind) (calls : List ChartCall) : Attributes :=
  (ofCalls kind (ChartCall.untilStart calls)).attributes

/-- Those that it had at each of the plots that have been added since. -/
def addedWith (kind : ChartKind) (calls : List ChartCall) : List Attributes :=
  (ofCalls kind (ChartCall.untilStart calls)).additions (ChartCall.sinceStart calls)

theorem ofCalls_untilStart (kind : ChartKind) (calls : List ChartCall) :
    ofCalls kind (ChartCall.untilStart calls) = blank kind (startedWith kind calls) := by
  unfold startedWith
  rcases ChartCall.untilStart_cases calls with hnone | ⟨before, hbefore⟩
  · rw [hnone]
    rfl
  · rw [hbefore, ofCalls_concat]
    change blank (ofCalls kind before).kind _ = blank kind _
    rw [kind_ofCalls]
    rfl

theorem framed_ofCalls (kind : ChartKind) (calls : List ChartCall) :
    (ofCalls kind calls).Framed (startedWith kind calls) (addedWith kind calls) := by
  have hstart : (ofCalls kind (ChartCall.untilStart calls)).Framed (startedWith kind calls) [] := by
    rw [ofCalls_untilStart]
    exact framed_blank kind _
  have hsince : ∀ call ∈ ChartCall.sinceStart calls, call ≠ .init :=
    fun _ => ChartCall.ne_init_of_mem_sinceStart
  have hframed := framed_afterCalls hstart hsince
  rwa [← ofCalls_append, ChartCall.untilStart_append_sinceStart] at hframed

/-- No call but the start of a chart touches the styles that are there. -/
theorem styles_prefix_call {call : ChartCall} (chart : Chart) (hcall : call ≠ .init) :
    chart.series.styles <+: (chart.call call).2.series.styles := by
  have houtcome := call_outcome call chart
  generalize chart.call call = done at houtcome ⊢
  cases houtcome with
  | refused | full | configures | settles => exact List.prefix_refl _
  | starts => exact absurd rfl hcall
  | addsPlot hadd =>
      rw [eq_of_addPlot hadd]
      exact ⟨_, (styles_add _ _ _).symm⟩
  | works _ hadvances => exact ⟨[], (List.append_nil _).trans hadvances.styles.symm⟩

theorem styles_prefix_afterCalls {calls : List ChartCall} (chart : Chart)
    (hcalls : ∀ call ∈ calls, call ≠ .init) :
    chart.series.styles <+: (chart.afterCalls calls).series.styles := by
  induction calls generalizing chart with
  | nil => exact List.prefix_refl _
  | cons call calls ih =>
      rw [List.forall_mem_cons] at hcalls
      exact (chart.styles_prefix_call hcalls.1).trans (ih _ hcalls.2)

end Chart

/-- A style is that of a plot with an index, which was added with attributes `a` and stands on the
axis that plots up to it asked for last. -/
structure PlotStyle.TakenAt (kind : ChartKind) (added : List Attributes) (index : Nat)
    (a : Attributes) (style : PlotStyle) : Prop where
  name : style.name = a.plotName
  lines : style.lines = a.lines
  shapes : style.shapes = a.shapes
  lineWidth : style.lineWidth = a.lineWidth
  color : PlotColor.palette[index % 12]? = some style.color
  axis : style.axis = (added.take (index + 1)).countP (allocates kind) - 1
  dialAxis : kind = .dial → style.axis = index

/-- A picture shows the attributes at the start of a chart and at the plots added since. -/
structure Picture.TakenWith (kind : ChartKind) (start : Attributes) (added : List Attributes)
    (picture : Picture) : Prop where
  title : picture.header.title = lastNamed (added.map Attributes.plotTitle) start.plotTitle
  xAxisName : picture.header.xAxisName = lastNamed (added.map Attributes.xAxisName) start.xAxisName
  legend : picture.header.legend = start.legend
  includeZeroX : picture.header.includeZeroX = start.zeroOnX
  axisCount : picture.axes.length = max 1 (added.countP (allocates kind))
  axis : ∀ (j : Nat) (a : Attributes), (added.filter (allocates kind))[j]? = some a →
    picture.axes[j]? = some (.ofAttributes a)
  firstAxis : added.countP (allocates kind) = 0 → picture.axes[0]? = some (.ofAttributes start)
  plotCount : picture.plots.length = added.length
  plot : ∀ (i : Nat) (a : Attributes), added[i]? = some a → ∃ plot, picture.plots[i]? = some plot ∧
    plot.style.TakenAt kind added i a ∧ plot.style.axis < picture.axes.length

namespace Chart

theorem styleBehind_takenAt {kind : ChartKind} {added : List Attributes} {i : Nat} {a : Attributes}
    (h : added[i]? = some a) : (styleBehind kind (added.take i) a).TakenAt kind added i a := by
  obtain ⟨hi, -⟩ := List.getElem?_eq_some_iff.mp h
  have htake : added.take i ++ [a] = added.take (i + 1) := by
    rw [List.take_add_one, h]
    rfl
  have haxis : (styleBehind kind (added.take i) a).axis =
      (added.take (i + 1)).countP (allocates kind) - 1 := congrArg (List.countP _ · - 1) htake
  refine ⟨rfl, rfl, rfl, rfl, ?_, haxis, ?_⟩
  · have hlength : (added.take i).length = i := List.length_take_of_le (by omega)
    change _ = some (PlotColor.ofIndex (added.take i).length)
    rw [hlength]
    exact PlotColor.getElem?_palette i
  · rintro rfl
    have hall : (added.take (i + 1)).countP (allocates .dial) = i + 1 := by
      rw [List.countP_eq_length (p := allocates .dial).mpr fun _ _ => rfl]
      exact List.length_take_of_le (by omega)
    rw [haxis, hall]
    rfl

theorem Framed.picture_takenWith {start : Attributes} {added : List Attributes} {chart : Chart}
    (h : chart.Framed start added) : chart.picture.TakenWith chart.kind start added where
  title := congrArg Header.title h.header
  xAxisName := congrArg Header.xAxisName h.header
  legend := congrArg Header.legend h.header
  includeZeroX := congrArg Header.includeZeroX h.header
  axisCount := by
    change chart.axes.length = _
    rw [h.axes, length_axesAfter]
  axis j a hj := by
    have hsome : added.countP (allocates chart.kind) ≠ 0 := by
      rw [List.countP_eq_length_filter]
      obtain ⟨hlt, -⟩ := List.getElem?_eq_some_iff.mp hj
      omega
    change chart.axes[j]? = _
    rw [h.axes, axesAfter_of_some _ _ _ hsome, List.getElem?_map, hj]
    rfl
  firstAxis hnone := by
    change chart.axes[0]? = _
    rw [h.axes, axesAfter_of_none _ _ _ hnone]
    rfl
  plotCount := by
    rw [← h.plotCount]
    exact length_draw chart.series
  plot i a hi := by
    have hstyle := h.style i a hi
    rw [← map_style_draw, List.getElem?_map] at hstyle
    obtain ⟨plot, hplot, hplotStyle⟩ := Option.map_eq_some_iff.mp hstyle
    have htaken : plot.style.TakenAt chart.kind added i a := hplotStyle ▸ styleBehind_takenAt hi
    refine ⟨plot, hplot, htaken, ?_⟩
    have hcount := (List.take_sublist (i + 1) added).countP_le (p := allocates chart.kind)
    change _ < chart.axes.length
    rw [htaken.axis, h.axes, length_axesAfter]
    omega

/-- After any calls a chart shows the attributes that were current when it was last started and when
its plots were added. The styles of its plots remain until it is started again. -/
theorem frame_shows_snapshots (kind : ChartKind) (calls : List ChartCall) :
    (ofCalls kind calls).picture.TakenWith kind (startedWith kind calls) (addedWith kind calls) ∧
      ∀ more : List ChartCall, (∀ call ∈ more, call ≠ .init) →
        (ofCalls kind calls).picture.plots.map Plot.style <+:
          (ofCalls kind (calls ++ more)).picture.plots.map Plot.style := by
  constructor
  · have htaken := (framed_ofCalls kind calls).picture_takenWith
    rwa [kind_ofCalls] at htaken
  · intro more hmore
    rw [ofCalls_append]
    unfold picture
    rw [map_style_draw, map_style_draw]
    exact styles_prefix_afterCalls _ hmore

/-- Three plots, the first of which asks for no axis; names are emptied in between, and later calls
set attributes, add a plot and are refused. -/
theorem frame_shows_snapshots_of_three :
    let calls : List ChartCall := [.addPlot, .setAttribute "plot_title" "Power", .init, .addPlot,
      .setAttribute "y_axis_name" "V", .addPlot, .setAttribute "plot_title" "",
      .setAttribute "y_axis_name" "A", .setAttribute "enable_lines" "false", .addPlot]
    let more : List ChartCall := [.setAttribute "plot_name" "Later", .addPlot, .clear 0, .replot 7]
    (∀ call ∈ more, call ≠ .init) ∧
      (ofCalls .xy calls).picture.TakenWith .xy { plotTitle := "Power" }
        [{ plotTitle := "Power" }, { plotTitle := "Power", yAxisName := "V" },
          { yAxisName := "A", lines := false }] ∧
      (ofCalls .xy calls).picture.plots.map Plot.style <+:
        (ofCalls .xy (calls ++ more)).picture.plots.map Plot.style := by
  intro calls more
  have hmore : ∀ call ∈ more, call ≠ .init := by simp [more]
  obtain ⟨htaken, hstyles⟩ := frame_shows_snapshots .xy calls
  exact ⟨hmore, htaken, hstyles more hmore⟩

end Chart

end ChartBoard
