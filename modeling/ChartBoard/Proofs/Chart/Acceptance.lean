import ChartBoard.Proofs.Chart.Following

/-!
Which values a chart takes. Whether a step with a plot is refused, and why, hangs on the
chart's outline alone: its kind and the number of its plots. Neither the values nor the
clock have a say in it, and no step changes the outline. So a line of values is decided
before its first value is taken (`feed_result`), and it is taken as a whole or not at
all (`decided`). At the end stands what setting an attribute and adding a plot make of a
chart.
-/

namespace ChartBoard

/-- What decides about a step with a plot. -/
structure Outline where
  kind : ChartKind
  plotCount : Nat
deriving DecidableEq

namespace Outline

variable (outline : Outline)

/-- Why there is no plot with an index. -/
def plotRefusal? (index : Nat) : Option Refusal :=
  if index < outline.plotCount then none
  else some (.noSuchPlot outline.kind index outline.plotCount)

/-- Why a single value is refused. -/
def valueRefusal? (index : Nat) : Option Refusal :=
  if outline.kind = .xy then some (.unsupported .xy .sequential)
  else outline.plotRefusal? index

/-- Why a point is refused. -/
def pointRefusal? (index : Nat) : Option Refusal :=
  if outline.kind = .xy then outline.plotRefusal? index
  else some (.unsupported outline.kind .point)

/-- Why a value with its time is refused. -/
def timedRefusal? (index : Nat) : Option Refusal :=
  if outline.kind = .time then outline.plotRefusal? index
  else some (.unsupported outline.kind .timed)

/-- Why a line of values is refused. -/
def lineRefusal? : DataLine → Option Refusal
  | .sequential values =>
      if outline.plotCount < values.length then
        some (.noSuchPlot outline.kind (values.length - 1) outline.plotCount)
      else if outline.kind = .xy ∧ values ≠ [] then
        some (.unsupported .xy .sequential)
      else
        none
  | .points points =>
      match points.find? fun p => outline.plotCount ≤ p.plot with
      | some p => some (.noSuchPlot outline.kind p.plot outline.plotCount)
      | none =>
          if outline.kind ≠ .xy ∧ points ≠ [] then
            some (.unsupported outline.kind .point)
          else
            none
  | .timed index _ _ => outline.timedRefusal? index

end Outline

/-- The result of a step that is refused, or not. -/
def verdict : Option Refusal → Except Refusal Unit
  | none => .ok ()
  | some refusal => .error refusal

namespace Chart

def outline (chart : Chart) : Outline := ⟨chart.kind, chart.plotCount⟩

theorem Advances.outline {before after : Chart} (h : before.Advances after) :
    after.outline = before.outline := by
  unfold Chart.outline
  rw [h.kind, h.plotCount]

/-- A step is ruled by the outline if this alone tells when and why it is refused, and
if it advances the chart otherwise. -/
structure Ruled (step : Chart → Except Refusal Chart) (refusal? : Outline → Option Refusal) :
    Prop where
  takes : ∀ {chart : Chart}, refusal? chart.outline = none →
    ∃ next, step chart = .ok next ∧ chart.Advances next
  refuses : ∀ {chart : Chart} {refusal : Refusal}, refusal? chart.outline = some refusal →
    step chart = .error refusal

/-- A step that first looks whether its plot is there. -/
theorem bind_checkPlot (index : Nat) (chart : Chart) (next : Except Refusal Chart) :
    (chart.checkPlot index >>= fun _ => next) =
      match chart.outline.plotRefusal? index with
      | none => next
      | some refusal => .error refusal := by
  have hcount : chart.outline.plotCount = chart.plotCount := rfl
  by_cases h : index < chart.plotCount
  · rw [checkPlot, if_pos h, Outline.plotRefusal?, hcount, if_pos h]
    rfl
  · rw [checkPlot, if_neg h, Outline.plotRefusal?, hcount, if_neg h]
    rfl

theorem plotCount_of_series {α : Type} (form : Series.Form α) {chart : Chart}
    {plots : List (Styled α)} (h : chart.series = form.make plots) :
    chart.plotCount = plots.length := by
  rw [plotCount, Series.count, h, form.styles_make, List.length_map]

/-- The plot that a step with no reason for a refusal finds. -/
theorem exists_plot {α : Type} (form : Series.Form α) {chart : Chart}
    {plots : List (Styled α)} (h : chart.series = form.make plots) {index : Nat}
    (hplot : chart.outline.plotRefusal? index = none) : ∃ plot, plots[index]? = some plot := by
  rw [Outline.plotRefusal?] at hplot
  split at hplot
  · rename_i hlt
    rw [outline, plotCount_of_series form h] at hlt
    exact ⟨_, List.getElem?_eq_getElem hlt⟩
  · cases hplot

/-- A step is ruled by the outline if on every chart it is either refused for what the
outline is, or looks for its plot and then advances the chart. -/
theorem Ruled.of_cases {step : Chart → Except Refusal Chart} {refusal? : Outline → Option Refusal}
    (index : Nat)
    (h : ∀ chart : Chart,
      (∃ refusal, refusal? chart.outline = some refusal ∧ step chart = .error refusal) ∨
      refusal? chart.outline = chart.outline.plotRefusal? index ∧
        ∃ next, step chart = (chart.checkPlot index >>= fun _ => .ok next) ∧
          (chart.outline.plotRefusal? index = none → chart.Advances next)) :
    Ruled step refusal? where
  takes := by
    intro chart hnone
    rcases h chart with ⟨refusal, hsome, _⟩ | ⟨hplot, next, hstep, hadvances⟩
    · rw [hsome] at hnone
      cases hnone
    · rw [hplot] at hnone
      refine ⟨next, ?_, hadvances hnone⟩
      rw [hstep, bind_checkPlot, hnone]
  refuses := by
    intro chart refusal hsome
    rcases h chart with ⟨other, hother, hstep⟩ | ⟨hplot, next, hstep, _⟩
    · rw [hother, Option.some.injEq] at hsome
      rw [hstep, hsome]
    · rw [hplot] at hsome
      rw [hstep, bind_checkPlot, hsome]

theorem advances_insertTimed {chart : Chart} {plots : List (Styled TimeTrace)}
    (hseries : chart.series = .time plots) {index : Nat} {plot : Styled TimeTrace}
    (hplot : plots[index]? = some plot) (v : TimedValue) :
    chart.Advances (chart.insertTimed index v plots) := by
  have hrecord : chart.insertTimed index v plots = chart.record index (plot.content.insertEdits v)
      (.time (Styled.update index (TimeTrace.insert v) plots)) := by
    simp [insertTimed, hplot]
  rw [hrecord]
  exact advances_record .time hseries hplot (fun h => h)
    (fun _ => TimeTrace.editAll_insert v plot.content)

/-- Writing at the cursor, in either form of series that has cursors. -/
theorem advances_write (form : Series.Form CursorTrace)
    (hdata : form.data = fun trace => .points trace.points) (hfits : form.Fits = CursorTrace.Fits)
    {chart : Chart} {plots : List (Styled CursorTrace)} (hseries : chart.series = form.make plots)
    {index : Nat} {plot : Styled CursorTrace} (hplot : plots[index]? = some plot) (point : Point) :
    chart.Advances (chart.record index (writeEdits index point plots)
      (form.make (Styled.update index (CursorTrace.write point) plots))) := by
  have hedits : writeEdits index point plots = [plot.content.writeEdit point] := by
    simp [writeEdits, hplot]
  rw [hedits]
  refine advances_record form hseries hplot ?_ ?_
  · rw [hfits]
    exact CursorTrace.fits_write point
  · rw [hfits, hdata]
    intro hold
    simp [CursorTrace.edit_write point hold]

/-- Taking a plot back to its beginning, with or without its points. -/
theorem advances_restart (form : Series.Form CursorTrace)
    (hdata : form.data = fun trace => .points trace.points) (hfits : form.Fits = CursorTrace.Fits)
    {chart : Chart} {plots : List (Styled CursorTrace)} (hseries : chart.series = form.make plots)
    {index : Nat} {plot : Styled CursorTrace} (hplot : plots[index]? = some plot) :
    chart.Advances (chart.record index [.clearPoints]
      (form.make (Styled.update index (fun _ => {}) plots))) ∧
    chart.Advances
      { chart with series := form.make (Styled.update index CursorTrace.rewind plots) } := by
  constructor
  · refine advances_record form hseries hplot ?_ ?_
    · rw [hfits]
      exact fun _ => Nat.le_refl 0
    · rw [hdata]
      exact fun _ => rfl
  · have hrewind : chart.Advances (chart.record index []
        (form.make (Styled.update index CursorTrace.rewind plots))) := by
      refine advances_record form hseries hplot ?_ ?_
      · rw [hfits]
        exact fun _ => CursorTrace.fits_rewind plot.content
      · rw [hdata]
        exact fun _ => rfl
    simpa [record] using hrewind

theorem ruled_addValue (now : Int) (index : Nat) (y : Binary64) :
    Ruled (addValue now index y) (·.valueRefusal? index) := by
  refine Ruled.of_cases index fun chart => ?_
  cases hseries : chart.series with
  | xy plots =>
      exact .inl ⟨.unsupported .xy .sequential,
        by simp [Outline.valueRefusal?, outline, kind, hseries, Series.kind],
        by rw [addValue, hseries]⟩
  | time plots =>
      refine .inr ⟨by simp [Outline.valueRefusal?, outline, kind, hseries, Series.kind], _,
        by rw [addValue, hseries]; rfl, fun hnone => ?_⟩
      obtain ⟨plot, hplot⟩ := exists_plot .time hseries hnone
      exact advances_insertTimed hseries hplot _
  | bar plots =>
      refine .inr ⟨by simp [Outline.valueRefusal?, outline, kind, hseries, Series.kind], _,
        by rw [addValue, hseries]; rfl, fun hnone => ?_⟩
      obtain ⟨plot, hplot⟩ := exists_plot .bar hseries hnone
      exact advances_write .bar rfl rfl hseries hplot _
  | dial plots =>
      refine .inr ⟨by simp [Outline.valueRefusal?, outline, kind, hseries, Series.kind], _,
        by rw [addValue, hseries]; rfl, fun hnone => ?_⟩
      obtain ⟨plot, hplot⟩ := exists_plot .dial hseries hnone
      exact advances_record .dial hseries hplot (fun h => h) (fun _ => rfl)

theorem ruled_addPoint (index : Nat) (point : Point) :
    Ruled (addPoint index point) (·.pointRefusal? index) := by
  refine Ruled.of_cases index fun chart => ?_
  cases hseries : chart.series with
  | xy plots =>
      refine .inr ⟨by simp [Outline.pointRefusal?, outline, kind, hseries, Series.kind], _,
        by rw [addPoint, hseries]; rfl, fun hnone => ?_⟩
      obtain ⟨plot, hplot⟩ := exists_plot .xy hseries hnone
      exact advances_write .xy rfl rfl hseries hplot _
  | time plots | bar plots | dial plots =>
      exact .inl ⟨.unsupported chart.kind .point,
        by simp [Outline.pointRefusal?, outline, kind, hseries, Series.kind],
        by simp [addPoint, kind, hseries, Series.kind]⟩

theorem ruled_addTimed (index : Nat) (time : Int) (y : Binary64) :
    Ruled (addTimed index time y) (·.timedRefusal? index) := by
  refine Ruled.of_cases index fun chart => ?_
  cases hseries : chart.series with
  | time plots =>
      refine .inr ⟨by simp [Outline.timedRefusal?, outline, kind, hseries, Series.kind], _,
        by rw [addTimed, hseries]; rfl, fun hnone => ?_⟩
      obtain ⟨plot, hplot⟩ := exists_plot .time hseries hnone
      exact advances_insertTimed hseries hplot _
  | xy plots | bar plots | dial plots =>
      exact .inl ⟨.unsupported chart.kind .timed,
        by simp [Outline.timedRefusal?, outline, kind, hseries, Series.kind],
        by simp [addTimed, kind, hseries, Series.kind]⟩

theorem ruled_clear (index : Nat) : Ruled (clear index) (·.plotRefusal? index) := by
  refine Ruled.of_cases index fun chart => .inr ⟨rfl, ?_⟩
  cases hseries : chart.series with
  | time plots =>
      refine ⟨_, by rw [clear, hseries]; rfl, fun hnone => ?_⟩
      obtain ⟨plot, hplot⟩ := exists_plot .time hseries hnone
      exact advances_record .time hseries hplot (fun h => h) (fun _ => rfl)
  | bar plots =>
      refine ⟨_, by rw [clear, hseries]; rfl, fun hnone => ?_⟩
      obtain ⟨plot, hplot⟩ := exists_plot .bar hseries hnone
      exact (advances_restart .bar rfl rfl hseries hplot).1
  | xy plots =>
      refine ⟨_, by rw [clear, hseries]; rfl, fun hnone => ?_⟩
      obtain ⟨plot, hplot⟩ := exists_plot .xy hseries hnone
      exact (advances_restart .xy rfl rfl hseries hplot).1
  | dial plots =>
      refine ⟨_, by rw [clear, hseries]; rfl, fun hnone => ?_⟩
      obtain ⟨plot, hplot⟩ := exists_plot .dial hseries hnone
      exact advances_record .dial hseries hplot (fun h => h) (fun _ => rfl)

theorem ruled_replot (index : Nat) : Ruled (replot index) (·.plotRefusal? index) := by
  refine Ruled.of_cases index fun chart => .inr ⟨rfl, ?_⟩
  cases hseries : chart.series with
  | bar plots =>
      refine ⟨_, by rw [replot, hseries]; rfl, fun hnone => ?_⟩
      obtain ⟨plot, hplot⟩ := exists_plot .bar hseries hnone
      exact (advances_restart .bar rfl rfl hseries hplot).2
  | xy plots =>
      refine ⟨_, by rw [replot, hseries]; rfl, fun hnone => ?_⟩
      obtain ⟨plot, hplot⟩ := exists_plot .xy hseries hnone
      exact (advances_restart .xy rfl rfl hseries hplot).2
  | time plots | dial plots =>
      exact ⟨chart, by rw [replot, hseries]; rfl, fun _ => Advances.refl chart⟩

/-- An attempt at a ruled step. -/
theorem attempt_cases {step : Chart → Except Refusal Chart} {refusal? : Outline → Option Refusal}
    (h : Ruled step refusal?) (chart : Chart) :
    (∃ refusal, refusal? chart.outline = some refusal ∧
      attempt step chart = ⟨chart, .error refusal⟩) ∨
    refusal? chart.outline = none ∧
      ∃ next, step chart = .ok next ∧ attempt step chart = ⟨next, .ok ()⟩ ∧
        chart.Advances next := by
  cases hcase : refusal? chart.outline with
  | none =>
      obtain ⟨next, hstep, hadvances⟩ := h.takes hcase
      exact .inr ⟨rfl, next, hstep, by rw [attempt, hstep], hadvances⟩
  | some refusal => exact .inl ⟨refusal, rfl, by rw [attempt, h.refuses hcase]⟩

theorem advances_attempt {step : Chart → Except Refusal Chart}
    {refusal? : Outline → Option Refusal} (h : Ruled step refusal?) (chart : Chart) :
    chart.Advances (attempt step chart).chart := by
  rcases attempt_cases h chart with ⟨_, _, hdone⟩ | ⟨_, _, _, hdone, hadvances⟩
  · rw [hdone]
    exact Advances.refl chart
  · rw [hdone]
    exact hadvances

section DoEach

variable {α : Type} {step : α → Chart → Except Refusal Chart}
  (refusal? : Outline → α → Option Refusal)

/-- Steps of which the outline refuses none are all taken, as the outline stays the
same. -/
theorem doEach_taken (h : ∀ x, Ruled (step x) (fun o => refusal? o x)) {xs : List α} {chart : Chart}
    (hnone : ∀ x ∈ xs, refusal? chart.outline x = none) :
    ∃ next, xs.foldlM (fun chart x => step x chart) chart = .ok next ∧
      doEach step xs chart = ⟨next, .ok ()⟩ ∧ chart.Advances next := by
  induction xs generalizing chart with
  | nil => exact ⟨chart, rfl, rfl, Advances.refl chart⟩
  | cons x xs ih =>
      obtain ⟨next, hstep, hadvances⟩ := (h x).takes (hnone x List.mem_cons_self)
      have hlater : ∀ y ∈ xs, refusal? next.outline y = none := by
        intro y hy
        rw [hadvances.outline]
        exact hnone y (List.mem_cons_of_mem x hy)
      obtain ⟨last, hfold, hdone, hadvances'⟩ := ih hlater
      refine ⟨last, ?_, ?_, hadvances.trans hadvances'⟩
      · rw [List.foldlM_cons, hstep]
        exact hfold
      · simp only [doEach, hstep, hdone]

/-- If the first step is refused, nothing has happened. -/
theorem doEach_refused {x : α} (h : Ruled (step x) (fun o => refusal? o x)) {chart : Chart}
    {refusal : Refusal} (hsome : refusal? chart.outline x = some refusal) (xs : List α) :
    doEach step (x :: xs) chart = ⟨chart, .error refusal⟩ := by
  simp only [doEach, h.refuses hsome]

end DoEach

end Chart

/-- The steps that a line of values asks for, one for each value. -/
def DataLine.steps (clock : Clock) (data : DataLine) : List (Chart → Except Refusal Chart) :=
  match data with
  | .sequential values =>
      values.zipIdx.map (fun (y, index) => Chart.addValue (clock index).now index y)
  | .points given => given.map (fun p => Chart.addPoint p.plot ⟨p.x, p.y⟩)
  | .timed index time y => [Chart.addTimed index ((clock 0).instant time) y]

namespace Chart

/-- The chart after all of some steps, or the first refusal among them. -/
def takeAll (steps : List (Chart → Except Refusal Chart)) (chart : Chart) : Except Refusal Chart :=
  steps.foldlM (fun chart step => step chart) chart

/-- The outcomes of a line of values: it is refused with the refusal that the outline
gives, before any value is taken, or all of its values are taken. -/
def Decided (clock : Clock) (data : DataLine) (chart : Chart) : Prop :=
  (∃ refusal, chart.outline.lineRefusal? data = some refusal ∧
    feed clock data chart = ⟨chart, .error refusal⟩) ∨
  chart.outline.lineRefusal? data = none ∧
    ∃ next, chart.takeAll (data.steps clock) = .ok next ∧
      feed clock data chart = ⟨next, .ok ()⟩ ∧ chart.Advances next

theorem decided_sequential (clock : Clock) (values : List Binary64) (chart : Chart) :
    Decided clock (.sequential values) chart := by
  have hruled (v : Binary64 × Nat) :
      Ruled ((fun (y, index) => addValue (clock index).now index y) v)
        (fun outline => outline.valueRefusal? v.2) := ruled_addValue _ _ _
  have hfeed : feed clock (.sequential values) chart =
      if chart.outline.plotCount < values.length then chart.refuseIndex (values.length - 1)
      else chart.doEach (fun (y, index) => addValue (clock index).now index y) values.zipIdx := rfl
  unfold Decided
  rw [hfeed, Outline.lineRefusal?]
  by_cases hmany : chart.outline.plotCount < values.length
  · rw [if_pos hmany, if_pos hmany]
    exact .inl ⟨_, rfl, rfl⟩
  rw [if_neg hmany, if_neg hmany]
  by_cases hxy : chart.outline.kind = .xy
  · cases values with
    | nil => exact .inr ⟨by simp, chart, rfl, rfl, Advances.refl chart⟩
    | cons y ys =>
        refine .inl ⟨.unsupported .xy .sequential, by simp [hxy], ?_⟩
        rw [List.zipIdx_cons]
        exact doEach_refused (fun o (v : Binary64 × Nat) => o.valueRefusal? v.2) (hruled (y, 0))
          (if_pos hxy) _
  · have hnone : ∀ v ∈ values.zipIdx, chart.outline.valueRefusal? v.2 = none := by
      intro v hv
      have hlt := List.snd_lt_of_mem_zipIdx hv
      rw [Outline.valueRefusal?, if_neg hxy, Outline.plotRefusal?, if_pos (by omega)]
    obtain ⟨next, hfold, hdone, hadvances⟩ :=
      doEach_taken (fun o (v : Binary64 × Nat) => o.valueRefusal? v.2) hruled hnone
    refine .inr ⟨by simp [hxy], next, ?_, hdone, hadvances⟩
    rw [takeAll, DataLine.steps, List.foldlM_map]
    exact hfold

theorem decided_points (clock : Clock) (points : List PlotPoint) (chart : Chart) :
    Decided clock (.points points) chart := by
  have hruled (p : PlotPoint) : Ruled (addPoint p.plot ⟨p.x, p.y⟩)
      (fun outline => outline.pointRefusal? p.plot) := ruled_addPoint _ _
  have hfeed : feed clock (.points points) chart =
      match points.find? fun p => chart.outline.plotCount ≤ p.plot with
      | some p => chart.refuseIndex p.plot
      | none => chart.doEach (fun p => addPoint p.plot ⟨p.x, p.y⟩) points := rfl
  unfold Decided
  rw [hfeed, Outline.lineRefusal?]
  cases hbad : points.find? fun p => chart.outline.plotCount ≤ p.plot with
  | some p => exact .inl ⟨_, rfl, rfl⟩
  | none =>
      by_cases hxy : chart.outline.kind = .xy
      · have hnone : ∀ p ∈ points, chart.outline.pointRefusal? p.plot = none := by
          intro p hp
          have hthere := List.find?_eq_none.mp hbad p hp
          rw [Outline.pointRefusal?, if_pos hxy, Outline.plotRefusal?,
            if_pos (by simpa using hthere)]
        obtain ⟨next, hfold, hdone, hadvances⟩ :=
          doEach_taken (fun o (p : PlotPoint) => o.pointRefusal? p.plot) hruled hnone
        refine .inr ⟨by simp [hxy], next, ?_, hdone, hadvances⟩
        rw [takeAll, DataLine.steps, List.foldlM_map]
        exact hfold
      · cases points with
        | nil => exact .inr ⟨by simp, chart, rfl, rfl, Advances.refl chart⟩
        | cons p points =>
            refine .inl ⟨.unsupported chart.outline.kind .point, by simp [hxy], ?_⟩
            exact doEach_refused (fun o (p : PlotPoint) => o.pointRefusal? p.plot) (hruled p)
              (if_neg hxy) _

/-- Every line of values is either refused with nothing done, or taken as a whole. -/
theorem decided (clock : Clock) (data : DataLine) (chart : Chart) : Decided clock data chart := by
  cases data with
  | sequential values => exact decided_sequential clock values chart
  | points points => exact decided_points clock points chart
  | timed index time y =>
      rcases attempt_cases (ruled_addTimed index ((clock 0).instant time) y) chart with
        hrefused | ⟨hnone, next, hstep, hdone, hadvances⟩
      · exact .inl hrefused
      · refine .inr ⟨hnone, next, ?_, hdone, hadvances⟩
        simp only [takeAll, DataLine.steps, List.foldlM_cons, hstep]
        rfl

/-- The outline decides about a line of values, whatever the clock. -/
theorem feed_result (clock : Clock) (data : DataLine) (chart : Chart) :
    (feed clock data chart).result = verdict (chart.outline.lineRefusal? data) := by
  rcases decided clock data chart with ⟨refusal, hrefusal, hfeed⟩ | ⟨hnone, next, _, hfeed, _⟩
  · rw [hfeed, hrefusal]
    rfl
  · rw [hfeed, hnone]
    rfl

theorem advances_feed (clock : Clock) (data : DataLine) (chart : Chart) :
    chart.Advances (feed clock data chart).chart := by
  rcases decided clock data chart with ⟨refusal, _, hfeed⟩ | ⟨_, next, _, hfeed, hadvances⟩
  · rw [hfeed]
    exact Advances.refl chart
  · rw [hfeed]
    exact hadvances

/-- There is room for a plot, or the kind of the chart sets a bound that is reached. -/
theorem addPlot_isOk_iff {chart : Chart} : (∃ after, chart.addPlot = .ok after) ↔
    ∀ most, chart.outline.kind.mostPlots? = some most → chart.outline.plotCount < most := by
  have hkind : chart.outline.kind = chart.kind := rfl
  have hcount : chart.outline.plotCount = chart.plotCount := rfl
  rw [hkind, hcount]
  unfold addPlot checkRoom
  cases chart.kind.mostPlots? with
  | none => exact ⟨fun _ most hmost => (by cases hmost), fun _ => ⟨_, rfl⟩⟩
  | some bound =>
      dsimp only
      by_cases hroom : chart.plotCount < bound
      · rw [if_pos hroom]
        refine ⟨fun _ most hmost => ?_, fun _ => ⟨_, rfl⟩⟩
        rw [← Option.some.inj hmost]
        exact hroom
      · rw [if_neg hroom]
        refine ⟨?_, fun h => absurd (h bound rfl) hroom⟩
        rintro ⟨after, hafter⟩
        cases hafter

theorem cursorsFit_empty (kind : ChartKind) : (Series.empty kind).CursorsFit := by
  cases kind <;> simp [Series.empty, Series.CursorsFit]

theorem cursorsFit_add (style : PlotStyle) (maxAge : Nat) {series : Series}
    (h : series.CursorsFit) : (series.add style maxAge).CursorsFit := by
  have hnew : ({} : CursorTrace).Fits := Nat.le_refl 0
  cases series with
  | time plots | dial plots => trivial
  | bar plots | xy plots =>
      intro p hp
      rcases List.mem_append.mp hp with hold | hlast
      · exact h p hold
      · rw [List.mem_singleton.mp hlast]
        exact hnew

/-- Setting an attribute changes the attributes of the chart only. -/
theorem eq_of_setAttribute {name value : String} {before after : Chart}
    (h : before.setAttribute name value = .ok after) :
    ∃ attributes, after = { before with attributes := attributes } := by
  unfold setAttribute at h
  cases hset : before.attributes.set name value with
  | error refusal => simp [hset, Except.map] at h
  | ok attributes =>
      simp only [hset, Except.map, Except.ok.injEq] at h
      exact ⟨attributes, h.symm⟩

theorem kind_add (style : PlotStyle) (maxAge : Nat) (series : Series) :
    (series.add style maxAge).kind = series.kind := by
  cases series <;> rfl

theorem count_add (style : PlotStyle) (maxAge : Nat) (series : Series) :
    (series.add style maxAge).count = series.count + 1 := by
  cases series <;> simp [Series.count, Series.add, Series.styles]

theorem styles_add (style : PlotStyle) (maxAge : Nat) (series : Series) :
    (series.add style maxAge).styles = series.styles ++ [style] := by
  cases series <;> exact List.map_append

/-- Each plot is drawn in its style. -/
theorem map_style_draw (series : Series) : series.draw.map Plot.style = series.styles := by
  cases series <;> simp [Series.draw, Series.styles]

theorem length_draw (series : Series) : series.draw.length = series.count := by
  rw [Series.count, ← map_style_draw, List.length_map]

/-- What a chart with room for one more plot becomes. -/
theorem eq_of_addPlot {before after : Chart} (h : before.addPlot = .ok after) :
    after = { before with
      header := before.headerForPlot
      axes := before.axesForPlot
      allocatedAxes := before.allocatedAxes + if before.asksForAxis then 1 else 0
      series := before.series.add before.styleForPlot
        (TimeTrace.ageLimit before.attributes.maxAgeSeconds.toNat) } := by
  unfold addPlot at h
  cases hroom : before.checkRoom with
  | error refusal =>
      rw [hroom] at h
      cases h
  | ok _ =>
      rw [hroom] at h
      cases h
      rfl

/-- What is left of a chart that a plot has been added to: nothing is recorded, and the
new trace begins with its cursor in place. -/
theorem of_addPlot {before after : Chart} (h : before.addPlot = .ok after) :
    after.pending = before.pending ∧ after.kind = before.kind ∧
      after.attributes = before.attributes ∧ after.plotCount = before.plotCount + 1 ∧
      (before.series.CursorsFit → after.series.CursorsFit) := by
  obtain rfl := eq_of_addPlot h
  exact ⟨rfl, kind_add _ _ before.series, rfl, count_add _ _ before.series, cursorsFit_add _ _⟩

end Chart

end ChartBoard
