import ChartBoard.Proofs.Chart.CursorCharts
import ChartBoard.Proofs.Session.AcceptedLines

/-!
Charts that are drawn in rounds. When a trace is written over by whole rounds of one length, its
points are those of the last round (`CursorTrace.Follows.points_of_rounds`): that is what remains of
the passes that are drawn over each other. What a line of values, a rewind or a timed value makes of
charts with the plots of a given shape is said as an update of them (`Session.Updates`).
-/

namespace ChartBoard

/-- What can stand where a list with two elements at its end is taken apart. -/
theorem eq_or_mem_of_append_pair {α : Type} {front before after : List α} {last final x : α}
    (h : front ++ [last, final] = before ++ x :: after) : x = final ∨ x = last ∨ last ∈ after := by
  rcases List.append_eq_append_iff.mp h with ⟨middle, -, hend⟩ | ⟨middle, -, hend⟩
  · -- the element is one of the last two
    rcases List.append_eq_cons_iff.mp hend.symm with ⟨-, hcons⟩ | ⟨rest, -, hrest⟩
    · exact .inr (.inl (List.cons.inj hcons).1)
    · have hmem : x ∈ [final] := hrest ▸ List.mem_append_right rest List.mem_cons_self
      exact .inl (List.mem_singleton.mp hmem)
  · -- the element is in front of them, or the first of them
    rcases List.cons_eq_append_iff.mp hend with ⟨-, hcons⟩ | ⟨rest, -, hrest⟩
    · exact .inr (.inl (List.cons.inj hcons).1.symm)
    · exact .inr (.inr (hrest ▸ List.mem_append_right rest List.mem_cons_self))

/-- Passes that are drawn over each other, of which the last but one is as long as any and the last
has just begun, show the last but one. -/
theorem DrawnOver.points_eq {α : Type} {point : Nat → α → Point} {front : List (List α)}
    {last : List α} {points : List Point} (h : DrawnOver point (front ++ [last, []]) points)
    (hlongest : ∀ pass ∈ front, pass.length ≤ last.length) : points = last.mapIdx point := by
  have hwithin : last.length ≤ points.length := h.within last (by simp)
  have hlength : points.length = last.length := by
    obtain ⟨pass, hpass, hreached⟩ := h.reached
    have hshort : pass.length ≤ last.length := by
      simp only [List.mem_append, List.mem_cons, List.not_mem_nil, or_false] at hpass
      rcases hpass with hfront | rfl | rfl
      · exact hlongest pass hfront
      · exact Nat.le_refl _
      · exact Nat.zero_le _
    omega
  apply List.ext_getElem?
  intro n
  by_cases hn : n < points.length
  · obtain ⟨before, pass, after, value, hpasses, hafter, hvalue, hpoint⟩ := h.latest n hn
    have hlast : pass = last := by
      rcases eq_or_mem_of_append_pair hpasses with rfl | hlast | hmem
      · -- the pass that has just begun has no value yet
        cases hvalue
      · exact hlast
      · have hshort := hafter last hmem
        omega
    subst hlast
    rw [hpoint, List.getElem?_mapIdx, hvalue]
    rfl
  · rw [List.getElem?_eq_none (by omega), List.getElem?_eq_none (by rw [List.length_mapIdx]; omega)]

section Rounds

variable {α : Type} (size : Nat) (value : Nat → Nat → α)

/-- So many whole rounds of values, and the first values of the next. -/
def roundPasses (round sample : Nat) : List (List α) :=
  ((List.range round).map fun earlier => (List.range size).map (value earlier)) ++
    [(List.range sample).map (value round)]

theorem roundPasses_succ (round : Nat) :
    roundPasses size value (round + 1) 0 = roundPasses size value round size ++ [[]] := by
  rw [roundPasses, roundPasses, List.range_succ, List.map_append]
  rfl

namespace CursorTrace

variable {size value} {point : Nat → α → Point} {trace : CursorTrace} {round sample : Nat}

theorem Follows.write_round (h : trace.Follows point (roundPasses size value round sample)) :
    (trace.write (point trace.cursor (value round sample))).Follows point
      (roundPasses size value round (sample + 1)) := by
  have hwrite := Follows.write h (value round sample)
  rw [roundPasses, List.range_succ, List.map_append]
  exact hwrite

theorem Follows.rewind_round (h : trace.Follows point (roundPasses size value round size)) :
    trace.rewind.Follows point (roundPasses size value (round + 1) 0) := by
  rw [roundPasses_succ]
  exact h.rewind

/-- Behind whole rounds a trace shows the last one. -/
theorem Follows.points_of_rounds
    (h : trace.Follows point (roundPasses size value (round + 1) 0)) :
    trace.points = (List.range size).map fun n => point n (value round n) := by
  have hdrawn := h.drawn
  rw [roundPasses_succ, roundPasses, List.append_assoc] at hdrawn
  have hpoints := hdrawn.points_eq fun pass hpass => by
    obtain ⟨earlier, -, rfl⟩ := List.mem_map.mp hpass
    simp
  rw [hpoints]
  exact List.ext_getElem (by simp) (by simp)

end CursorTrace

end Rounds

namespace Chart

open Session (Updates)

/-- A chart with a single trace that is written at a cursor. -/
def Draws (form : Series.Form CursorTrace) (OfTrace : CursorTrace → Prop) (chart : Chart) : Prop :=
  ∃ style trace, chart.series = form.make [⟨style, trace⟩] ∧ OfTrace trace

section Draws

variable {OfTrace OfTrace' : CursorTrace → Prop}

/-- A value becomes the bar under the cursor. -/
theorem updates_bar {y : Binary64}
    (h : ∀ trace, OfTrace trace → OfTrace' (trace.write (PassForm.bar.point trace.cursor y))) :
    Updates (Draws .bar OfTrace) (.data (.sequential [y])) (Draws .bar OfTrace') := by
  refine fun clock => ⟨feed clock (.sequential [y]), rfl, ?_⟩
  rintro chart ⟨style, trace, hseries, htrace⟩
  have hseries' : chart.series = .bar [⟨style, trace⟩] := hseries
  have hfed : (feed clock (.sequential [y]) chart).result = .ok () ∧
      (feed clock (.sequential [y]) chart).chart.series =
        .bar [⟨style, trace.write (PassForm.bar.point trace.cursor y)⟩] := by
    simp [feed, doEach, addValue, hseries', checkPlot, plotCount, Series.count, Series.styles,
      record, Styled.update, nextBar, PassForm.bar, bind, Except.bind, pure, Except.pure]
  exact ⟨hfed.1, style, _, hfed.2, h trace htrace⟩

/-- A point is written where the cursor stands. -/
theorem updates_point {p : Point}
    (h : ∀ trace, OfTrace trace → OfTrace' (trace.write (PassForm.xy.point trace.cursor p))) :
    Updates (Draws .xy OfTrace) (.data (.points [⟨0, p.x, p.y⟩])) (Draws .xy OfTrace') := by
  refine fun clock => ⟨feed clock (.points [⟨0, p.x, p.y⟩]), rfl, ?_⟩
  rintro chart ⟨style, trace, hseries, htrace⟩
  have hseries' : chart.series = .xy [⟨style, trace⟩] := hseries
  have hfed : (feed clock (.points [⟨0, p.x, p.y⟩]) chart).result = .ok () ∧
      (feed clock (.points [⟨0, p.x, p.y⟩]) chart).chart.series =
        .xy [⟨style, trace.write (PassForm.xy.point trace.cursor p)⟩] := by
    simp [feed, doEach, addPoint, hseries', checkPlot, plotCount, Series.count, Series.styles,
      record, Styled.update, PassForm.xy, bind, Except.bind, pure, Except.pure]
  exact ⟨hfed.1, style, _, hfed.2, h trace htrace⟩

theorem updates_replot {form : Series.Form CursorTrace} (hform : form = .bar ∨ form = .xy)
    (h : ∀ trace, OfTrace trace → OfTrace' trace.rewind) :
    Updates (Draws form OfTrace) (.replot 0) (Draws form OfTrace') := by
  refine fun clock => ⟨attempt (replot 0), rfl, ?_⟩
  rintro chart ⟨style, trace, hseries, htrace⟩
  have hreplot : chart.replot 0 =
      .ok { chart with series := form.make [⟨style, trace.rewind⟩] } := by
    rcases hform with rfl | rfl <;>
      simp [Series.Form.bar, Series.Form.xy] at hseries ⊢ <;>
      simp [replot, checkPlot, plotCount, Series.count, Series.styles, hseries, Styled.update, bind,
        Except.bind, pure, Except.pure]
  rw [attempt, hreplot]
  exact ⟨rfl, style, _, rfl, h trace htrace⟩

/-- What is seen of a single trace. -/
theorem Draws.picture {form : Series.Form CursorTrace} (hform : form = .bar ∨ form = .xy)
    {chart : Chart} (h : Draws form OfTrace chart) :
    chart.picture.kind = form.kind ∧
    ∃ style trace, chart.picture.plots = [⟨style, .points trace.points⟩] ∧
      OfTrace trace := by
  obtain ⟨style, trace, hseries, htrace⟩ := h
  rcases hform with rfl | rfl
  · exact ⟨congrArg Series.kind hseries, style, trace, congrArg Series.draw hseries, htrace⟩
  · exact ⟨congrArg Series.kind hseries, style, trace, congrArg Series.draw hseries, htrace⟩

end Draws

/-- A dial with two needles. -/
def HasNeedles (first second : Binary64) (chart : Chart) : Prop :=
  ∃ style style', chart.series = .dial [⟨style, first⟩, ⟨style', second⟩]

/-- Both needles move at once. -/
theorem updates_needles (first second y y' : Binary64) :
    Updates (HasNeedles first second) (.data (.sequential [y, y'])) (HasNeedles y y') := by
  refine fun clock => ⟨feed clock (.sequential [y, y']), rfl, ?_⟩
  rintro chart ⟨style, style', hseries⟩
  have hfed : (feed clock (.sequential [y, y']) chart).result = .ok () ∧
      (feed clock (.sequential [y, y']) chart).chart.series = .dial [⟨style, y⟩, ⟨style', y'⟩] := by
    simp [feed, doEach, addValue, hseries, checkPlot, plotCount, Series.count, Series.styles,
      record, Styled.update, bind, Except.bind, pure, Except.pure]
  exact ⟨hfed.1, style, style', hfed.2⟩

/-- A dial has room for a second needle, which stands at zero. -/
theorem addPlot_needle {chart : Chart} {style : PlotStyle} {first : Binary64}
    (hseries : chart.series = .dial [⟨style, first⟩]) (p : PlotSettings) :
    ∃ after, (chart.configured p).addPlot = .ok after ∧ HasNeedles first .zero after.settled := by
  have hkind : chart.kind = .dial := congrArg Series.kind hseries
  have hcount : chart.plotCount = 1 := plotCount_of_series .dial hseries
  have hroom : ∀ most, chart.kind.mostPlots? = some most → chart.plotCount < most := by
    intro most hmost
    rw [hkind] at hmost
    cases hmost
    rw [hcount]
    exact Nat.lt_succ_self 1
  obtain ⟨after, hadd⟩ : ∃ after, (chart.configured p).addPlot = .ok after :=
    addPlot_isOk_iff.mpr hroom
  refine ⟨after, hadd, style, (chart.configured p).styleForPlot, ?_⟩
  have hseries' : (chart.configured p).series = .dial [⟨style, first⟩] := hseries
  rw [eq_of_addPlot hadd, settled]
  dsimp only
  rw [hseries']
  rfl

theorem HasNeedles.picture {first second : Binary64} {chart : Chart}
    (h : HasNeedles first second chart) :
    chart.picture.kind = .dial ∧ ∃ style style',
      chart.picture.plots = [⟨style, .value first⟩, ⟨style', .value second⟩] := by
  obtain ⟨style, style', hseries⟩ := h
  exact ⟨congrArg Series.kind hseries, style, style', congrArg Series.draw hseries⟩

/-- A chart of which every plot has an axis of its own. -/
structure OwnAxes (kind : ChartKind) (axes : List Axis) (chart : Chart) : Prop where
  kind : chart.kind = kind
  sameAxes : chart.axes = axes
  allocated : chart.allocatedAxes = axes.length
  styles : chart.series.styles.map PlotStyle.axis = List.range axes.length

section OwnAxes

variable {kind : ChartKind} {axes : List Axis} {chart after : Chart}

theorem OwnAxes.plotCount (h : OwnAxes kind axes chart) : chart.plotCount = axes.length := by
  have hlength := congrArg List.length h.styles
  rw [List.length_map, List.length_range] at hlength
  exact hlength

section AddPlot

variable {p : PlotSettings} (hname : (Text.endTrimmed p.yAxisName).isEmpty = false)

include hname

/-- A plot whose axis has a name asks for it. -/
theorem asksForAxis_configured (before : Chart) : (before.configured p).asksForAxis = true := by
  have hconfigured : (before.configured p).attributes.yAxisName = Text.endTrimmed p.yAxisName := rfl
  rw [asksForAxis, hconfigured, hname, Bool.not_false, Bool.or_true]

/-- The first plot takes the axis that is there. -/
theorem ownAxes_first {attributes : Attributes}
    (hadd : ((blank kind attributes).configured p).addPlot = .ok after) :
    OwnAxes kind [p.axis] after.settled := by
  have hasks := asksForAxis_configured hname (blank kind attributes)
  have hkind : (blank kind attributes).kind = kind := by cases kind <;> rfl
  have hnone : ((blank kind attributes).configured p).series.styles = [] := by cases kind <;> rfl
  obtain rfl := eq_of_addPlot hadd
  refine ⟨(kind_add _ _ _).trans hkind, ?_, ?_, ?_⟩ <;> dsimp only [settled]
  · rw [axesForPlot, hasks]
    rfl
  · rw [if_pos hasks]
    rfl
  · rw [styles_add, hnone, styleForPlot, hasks]
    rfl

/-- Each further plot gets one more. -/
theorem OwnAxes.addPlot (h : OwnAxes kind axes chart)
    (hadd : (chart.configured p).addPlot = .ok after) :
    OwnAxes kind (axes ++ [p.axis]) after.settled := by
  have hasks := asksForAxis_configured hname chart
  have hallocated : (chart.configured p).allocatedAxes = axes.length := h.allocated
  have haxes : (chart.configured p).axes = axes := h.sameAxes
  have hstyles : (chart.configured p).series.styles.map PlotStyle.axis = List.range axes.length :=
    h.styles
  obtain rfl := eq_of_addPlot hadd
  refine ⟨(kind_add _ _ _).trans h.kind, ?_, ?_, ?_⟩ <;> dsimp only [settled]
  · rw [axesForPlot, hasks, hallocated, haxes, Bool.not_true, if_neg Bool.false_ne_true,
      if_neg (Nat.lt_irrefl _)]
    rfl
  · rw [if_pos hasks, hallocated, List.length_append, List.length_singleton]
  · rw [styles_add, List.map_append, hstyles, styleForPlot, hasks, hallocated, List.length_append,
      List.length_singleton, List.range_succ]
    rfl

end AddPlot

theorem OwnAxes.advances (h : OwnAxes kind axes chart) (hadvances : chart.Advances after) :
    OwnAxes kind axes after.settled where
  kind := hadvances.kind.trans h.kind
  sameAxes := hadvances.axes.trans h.sameAxes
  allocated := hadvances.allocatedAxes.trans h.allocated
  styles := (congrArg (List.map PlotStyle.axis) hadvances.styles).trans h.styles

/-- Values that a chart can take leave its axes alone. -/
theorem updates_ownAxes {data : DataLine}
    (h : Outline.lineRefusal? ⟨kind, axes.length⟩ data = none) :
    Updates (OwnAxes kind axes) (.data data) (OwnAxes kind axes) := by
  refine fun clock => ⟨feed clock data, rfl, fun chart hchart => ⟨?_, ?_⟩⟩
  · have houtline : chart.outline = ⟨kind, axes.length⟩ := by
      rw [outline, hchart.kind, hchart.plotCount]
    rw [feed_result, houtline, h]
    rfl
  · exact hchart.advances (advances_feed clock data chart)

theorem OwnAxes.picture (h : OwnAxes kind axes chart) :
    chart.picture.kind = kind ∧ chart.picture.axes = axes ∧
      chart.picture.plots.map (fun plot => plot.style.axis) = List.range axes.length := by
  refine ⟨h.kind, h.sameAxes, ?_⟩
  have hstyles := map_style_draw chart.series
  rw [← h.styles, ← hstyles, List.map_map]
  rfl

end OwnAxes

end Chart

end ChartBoard
