import ChartBoard.Proofs.Chart.CursorCharts
import ChartBoard.Proofs.Chart.StoredCharts

/-!
How a chart is stored, and that this keeps up with its calls. A chart has the style and the content
of a plot together; what is stored of it has them in separate lists (`Chart.stored`). Each call does
the same to both (`Chart.stored_call`), as long as there are no more plots than charts of the kind
hold (`Chart.WithinRoom`), which every call keeps. So no access ever fails, the buffers are those of
the plots, and the picture joins them again (`Chart.picture_stored`).
-/

namespace ChartBoard

/-- The trace of a bar chart, or an empty one before it has a plot. -/
def barTrace (plots : List (Styled CursorTrace)) : CursorTrace :=
  (plots.map Styled.content).headD {}

/-- The contents of plots in buffers of their own. -/
def Series.buffers : Series → Buffers
  | time plots => .time (plots.map Styled.content)
  | bar plots => .bar (barTrace plots).points ((barTrace plots).cursor + 1)
  | xy plots => .xy (plots.map Styled.content)
  | dial plots => .dial (plots.map Styled.content)

namespace Chart

/-- The chart as it is stored. -/
def stored (chart : Chart) : StoredChart where
  attributes := chart.attributes
  header := chart.header
  axes := chart.axes
  allocatedAxes := chart.allocatedAxes
  styles := chart.series.styles
  buffers := chart.series.buffers
  pending := chart.pending

theorem kind_stored (chart : Chart) : chart.stored.kind = chart.kind := by
  unfold StoredChart.kind stored Chart.kind
  cases chart.series <;> rfl

theorem plotCount_stored (chart : Chart) : chart.stored.plotCount = chart.plotCount := rfl

theorem stored_blank (kind : ChartKind) (attributes : Attributes) :
    (blank kind attributes).stored = .blank kind attributes := by
  cases kind <;> rfl

/-- A result together with the chart as it is stored then. -/
def storedDone (done : CallResult × Chart) : CallResult × StoredChart := (done.1, done.2.stored)

/-- A step with a plot that does the same to the chart and to what is stored of it. -/
theorem stored_withPlot {chart next : Chart} {step : Chart → Except Refusal Chart} {index : Nat}
    {next? : Option StoredChart} (hstep : step chart = chart.checkPlot index >>= fun _ => .ok next)
    (hnext : index < chart.plotCount → next? = some next.stored) :
    chart.stored.withPlot index next? = some (storedDone (chart.conclude .done step)) := by
  rw [conclude, hstep, bind_checkPlot]
  by_cases hindex : index < chart.plotCount
  · have hnone : chart.outline.plotRefusal? index = none := if_pos hindex
    rw [hnone, StoredChart.withPlot, plotCount_stored, if_pos hindex, hnext hindex]
    rfl
  · have hsome : chart.outline.plotRefusal? index =
        some (.noSuchPlot chart.kind index chart.plotCount) :=
      if_neg hindex
    rw [hsome, StoredChart.withPlot_of_le (Nat.not_lt.mp hindex), kind_stored]
    rfl

theorem stored_record {chart : Chart} {series : Series} (h : series.styles = chart.series.styles)
    (index : Nat) (edits : List Edit) : (chart.record index edits series).stored =
      chart.stored.record index edits series.buffers := by
  simp [stored, record, StoredChart.record, h]

/-- What is done to the content of a plot is done to the buffer at its index. -/
theorem stored_actOn {α : Type} (form : Series.Form α) {chart : Chart} {plots : List (Styled α)}
    (hseries : chart.series = form.make plots) {make : List α → Buffers}
    (hbuffers : ∀ plots, (form.make plots).buffers = make (plots.map Styled.content)) {index : Nat}
    {plot : Styled α} (hplot : plots[index]? = some plot) {act? : α → Option (α × List Edit)}
    {f : α → α} {edits : List Edit} (hact : act? plot.content = some (f plot.content, edits)) :
    chart.stored.actOn index act? make (plots.map Styled.content) =
      some (chart.record index edits (form.make (Styled.update index f plots))).stored := by
  have hcontent : (plots.map Styled.content)[index]? = some plot.content := by
    rw [List.getElem?_map, hplot]
    rfl
  have hsame : (form.make (Styled.update index f plots)).styles = chart.series.styles := by
    rw [form.styles_make, hseries, form.styles_make, Styled.map_style_update]
  have hset : (Styled.update index f plots).map Styled.content =
      (plots.map Styled.content).set index (f plot.content) := by
    rw [Styled.update_eq_set hplot, List.map_set]
  rw [stored_record hsame, hbuffers, hset, StoredChart.actOn, hcontent]
  change (act? plot.content).bind _ = _
  rw [hact]
  rfl

/-- No more plots than charts of the kind hold. -/
def WithinRoom (chart : Chart) : Prop :=
  ∀ most, chart.kind.mostPlots? = some most → chart.plotCount ≤ most

theorem withinRoom_blank (kind : ChartKind) (attributes : Attributes) :
    (blank kind attributes).WithinRoom := by
  intro most _
  rw [plotCount_blank]
  exact Nat.zero_le most

theorem WithinRoom.call {chart : Chart} (h : chart.WithinRoom) (call : ChartCall) :
    (chart.call call).2.WithinRoom := by
  have houtcome := call_outcome call chart
  generalize chart.call call = done at houtcome ⊢
  cases houtcome with
  | refused | full | configures | settles => exact h
  | starts => exact withinRoom_blank chart.kind chart.attributes
  | addsPlot hadd =>
      intro most hmost
      rw [(of_addPlot hadd).2.1] at hmost
      rw [(of_addPlot hadd).2.2.2.1]
      exact addPlot_isOk_iff.mp ⟨_, hadd⟩ most hmost
  | works _ hadvances =>
      intro most hmost
      rw [hadvances.kind] at hmost
      rw [hadvances.plotCount]
      exact h most hmost

theorem withinRoom_ofCalls (kind : ChartKind) (calls : List ChartCall) :
    (ofCalls kind calls).WithinRoom :=
  ofCalls_keeps (withinRoom_blank kind {}) (fun _ call h => h.call call) calls

section Calls

variable {chart : Chart}

/-- The plot that is found at an index, in a chart of one form. -/
theorem exists_plot_of_lt {α : Type} (form : Series.Form α) {plots : List (Styled α)}
    (hseries : chart.series = form.make plots) {index : Nat} (hindex : index < chart.plotCount) :
    ∃ plot, plots[index]? = some plot := exists_plot form hseries (if_pos hindex)

/-- Something is done to the content of a plot that leaves the same edits whatever this is. -/
theorem stored_actOn_of_lt {α : Type} (form : Series.Form α) {plots : List (Styled α)}
    (hseries : chart.series = form.make plots) {index : Nat} (hindex : index < chart.plotCount)
    {make : List α → Buffers}
    (hbuffers : ∀ plots, (form.make plots).buffers = make (plots.map Styled.content)) (f : α → α)
    (edits : List Edit) :
    chart.stored.actOn index (fun content => some (f content, edits)) make
        (plots.map Styled.content) =
      some (chart.record index edits (form.make (Styled.update index f plots))).stored := by
  obtain ⟨plot, hplot⟩ := exists_plot_of_lt form hseries hindex
  exact stored_actOn form hseries hbuffers hplot rfl

theorem stored_insertTimed {plots : List (Styled TimeTrace)} (hseries : chart.series = .time plots)
    {index : Nat} (hindex : index < chart.plotCount) (v : TimedValue) :
    chart.stored.actOn index (TimeTrace.insertAt? v) .time (plots.map Styled.content) =
      some (chart.insertTimed index v plots).stored := by
  obtain ⟨plot, hplot⟩ := exists_plot_of_lt .time hseries hindex
  have hrecord : chart.insertTimed index v plots = chart.record index (plot.content.insertEdits v)
      (.time (Styled.update index (TimeTrace.insert v) plots)) := by
    simp [insertTimed, hplot]
  rw [hrecord]
  exact stored_actOn .time hseries (fun _ => rfl) hplot (TimeTrace.insertAt?_eq v _)

theorem stored_write {plots : List (Styled CursorTrace)} (hseries : chart.series = .xy plots)
    {index : Nat} (hindex : index < chart.plotCount) (point : Point) :
    chart.stored.actOn index (fun trace => some (trace.write point, [trace.writeEdit point])) .xy
        (plots.map Styled.content) =
      some (chart.record index (writeEdits index point plots)
        (.xy (Styled.update index (CursorTrace.write point) plots))).stored := by
  obtain ⟨plot, hplot⟩ := exists_plot_of_lt .xy hseries hindex
  have hedits : writeEdits index point plots = [plot.content.writeEdit point] := by
    simp [writeEdits, hplot]
  rw [hedits]
  exact stored_actOn .xy hseries (fun _ => rfl) hplot rfl

theorem stored_rewind {plots : List (Styled CursorTrace)} (hseries : chart.series = .xy plots)
    {index : Nat} (hindex : index < chart.plotCount) :
    chart.stored.actOn index (fun trace => some (trace.rewind, [])) .xy (plots.map Styled.content) =
      some
        ({ chart with series := .xy (Styled.update index CursorTrace.rewind plots) } :
          Chart).stored := by
  have hrecord :
      ({ chart with series := .xy (Styled.update index CursorTrace.rewind plots) } : Chart) =
      chart.record index [] (.xy (Styled.update index CursorTrace.rewind plots)) := by
    simp [record]
  rw [hrecord]
  exact stored_actOn_of_lt .xy hseries hindex (fun _ => rfl) CursorTrace.rewind []

/-- The only plot of a bar chart. -/
theorem exists_bar_of_lt (h : chart.WithinRoom) {plots : List (Styled CursorTrace)}
    (hseries : chart.series = .bar plots) {index : Nat} (hindex : index < chart.plotCount) :
    index = 0 ∧ ∃ plot, plots = [plot] := by
  have hkind : chart.kind = .bar := congrArg Series.kind hseries
  have hmost : chart.plotCount ≤ 1 := h 1 (by rw [hkind]; rfl)
  have hlength : plots.length = 1 := by
    rw [← plotCount_of_series .bar hseries]
    omega
  exact ⟨by omega, List.length_eq_one_iff.mp hlength⟩

theorem stored_writeBar (h : chart.WithinRoom) {plots : List (Styled CursorTrace)}
    (hseries : chart.series = .bar plots) {index : Nat} (hindex : index < chart.plotCount)
    (y : Binary64) :
    chart.stored.writeBar index y (barTrace plots).points ((barTrace plots).cursor + 1) =
      some (chart.record index (writeEdits index (nextBar index y plots) plots)
        (.bar (Styled.update index (CursorTrace.write (nextBar index y plots)) plots))).stored := by
  obtain ⟨rfl, plot, rfl⟩ := exists_bar_of_lt h hseries hindex
  have hstyles (f : CursorTrace → CursorTrace) :
      (Series.bar (Styled.update 0 f [plot])).styles = chart.series.styles := by
    rw [hseries]
    rfl
  rw [stored_record (hstyles _)]
  rfl

theorem stored_setAttribute (name value : String) : chart.stored.setAttribute name value =
    some (storedDone (chart.conclude .done (setAttribute name value))) := by
  have hattributes : chart.stored.attributes = chart.attributes := rfl
  unfold StoredChart.setAttribute conclude setAttribute
  rw [hattributes]
  cases chart.attributes.set name value with
  | ok | error => rfl

theorem stored_addValue (h : chart.WithinRoom) (now : Int) (index : Nat) (y : Binary64) :
    chart.stored.addValue now index y =
      some (storedDone (chart.conclude .done (addValue now index y))) := by
  obtain ⟨attributes, header, axes, allocatedAxes, series, pending⟩ := chart
  cases series with
  | xy plots => rfl
  | time plots => exact stored_withPlot rfl fun hindex => stored_insertTimed rfl hindex _
  | bar plots => exact stored_withPlot rfl fun hindex => stored_writeBar h rfl hindex y
  | dial plots =>
      exact stored_withPlot rfl fun hindex =>
        stored_actOn_of_lt .dial rfl hindex (fun _ => rfl) (fun _ => y) [.setValue y]

theorem stored_addPoint (index : Nat) (point : Point) : chart.stored.addPoint index point =
    some (storedDone (chart.conclude .done (addPoint index point))) := by
  obtain ⟨attributes, header, axes, allocatedAxes, series, pending⟩ := chart
  cases series with
  | xy plots => exact stored_withPlot rfl fun hindex => stored_write rfl hindex point
  | time plots | bar plots | dial plots => rfl

theorem stored_addTimed (index : Nat) (time : Int) (y : Binary64) :
    chart.stored.addTimed index time y =
      some (storedDone (chart.conclude .done (addTimed index time y))) := by
  obtain ⟨attributes, header, axes, allocatedAxes, series, pending⟩ := chart
  cases series with
  | time plots => exact stored_withPlot rfl fun hindex => stored_insertTimed rfl hindex _
  | xy plots | bar plots | dial plots => rfl

theorem stored_clear (h : chart.WithinRoom) (index : Nat) : chart.stored.clear index =
    some (storedDone (chart.conclude .done (clear index))) := by
  obtain ⟨attributes, header, axes, allocatedAxes, series, pending⟩ := chart
  cases series with
  | time plots =>
      exact stored_withPlot rfl fun hindex => stored_actOn_of_lt .time rfl hindex (fun _ => rfl)
        (fun trace => { trace with values := [] }) [.clearPoints]
  | bar plots =>
      refine stored_withPlot rfl fun hindex => ?_
      obtain ⟨rfl, plot, rfl⟩ := exists_bar_of_lt h rfl hindex
      rfl
  | xy plots =>
      exact stored_withPlot rfl fun hindex =>
        stored_actOn_of_lt .xy rfl hindex (fun _ => rfl) (fun _ => {}) [.clearPoints]
  | dial plots =>
      exact stored_withPlot rfl fun hindex =>
        stored_actOn_of_lt .dial rfl hindex (fun _ => rfl) (fun _ => .zero) [.setValue .zero]

theorem stored_replot (h : chart.WithinRoom) (index : Nat) : chart.stored.replot index =
    some (storedDone (chart.conclude .done (replot index))) := by
  obtain ⟨attributes, header, axes, allocatedAxes, series, pending⟩ := chart
  cases series with
  | time plots | dial plots => exact stored_withPlot rfl fun _ => rfl
  | bar plots =>
      refine stored_withPlot rfl fun hindex => ?_
      obtain ⟨rfl, plot, rfl⟩ := exists_bar_of_lt h rfl hindex
      rfl
  | xy plots => exact stored_withPlot rfl fun hindex => stored_rewind rfl hindex

/-- The buffers grow by the plot that is added: a bar chart that has room has no bars. -/
theorem buffers_add (hroom : chart.HasRoom) (style : PlotStyle) (maxAge : Nat) :
    (chart.series.add style maxAge).buffers = chart.series.buffers.grow maxAge := by
  cases hseries : chart.series with
  | time | xy | dial => simp [Series.add, Series.buffers, Buffers.grow]
  | bar plots =>
      have hkind : chart.kind = .bar := congrArg Series.kind hseries
      have hcount : chart.plotCount < 1 := hroom 1 (by rw [hkind]; rfl)
      rw [plotCount_of_series .bar hseries, Nat.lt_one_iff, List.length_eq_zero_iff] at hcount
      rw [hcount]
      rfl

theorem stored_register {next : Chart} (hadd : chart.addPlot = .ok next) :
    chart.stored.register = some (storedDone (.added chart.nextHandle, next)) := by
  have hroom : chart.HasRoom := addPlot_isOk_iff.mp ⟨next, hadd⟩
  have hkind : chart.stored.frame.kind = chart.kind := by
    unfold StoredChart.frame Chart.kind stored StoredChart.kind
    cases chart.series <;> rfl
  have hasks : chart.stored.frame.asksForAxis = chart.asksForAxis := by
    rw [asksForAxis, hkind]
    rfl
  have haxes : chart.stored.frame.axesForPlot = chart.axesForPlot := by
    unfold axesForPlot
    rw [hasks]
    rfl
  have hstyle : chart.stored.nextStyle? = some chart.styleForPlot := by
    unfold StoredChart.nextStyle? styleForPlot
    rw [plotCount_stored, PlotColor.getElem?_palette, hasks]
    rfl
  obtain rfl := eq_of_addPlot hadd
  rw [StoredChart.register, hstyle, haxes, hasks]
  unfold storedDone stored
  rw [styles_add, buffers_add hroom]
  rfl

theorem stored_addPlot :
    chart.stored.addPlot =
      some (storedDone (chart.conclude (.added chart.nextHandle) addPlot)) := by
  have hcheck : chart.stored.checkRoom = chart.checkRoom := by
    unfold StoredChart.checkRoom checkRoom
    rw [kind_stored]
    cases chart.kind.mostPlots? with
    | none | some => rfl
  unfold StoredChart.addPlot conclude
  rw [hcheck]
  cases hroom : chart.checkRoom with
  | error refusal =>
      rw [addPlot, hroom]
      rfl
  | ok _ =>
      cases hadd : chart.addPlot with
      | error refusal =>
          rw [addPlot, hroom] at hadd
          cases hadd
      | ok next => exact stored_register hadd

end Calls

theorem stored_call {chart : Chart} (h : chart.WithinRoom) (call : ChartCall) :
    chart.stored.call call = some (storedDone (chart.call call)) := by
  cases call with
  | setAttribute name value => exact stored_setAttribute name value
  | init =>
      change some (CallResult.done, StoredChart.blank chart.stored.kind chart.attributes) = _
      rw [kind_stored, ← stored_blank]
      rfl
  | addPlot => exact stored_addPlot
  | addValue now index y => exact stored_addValue h now index y
  | addPoint index point => exact stored_addPoint index point
  | addTimed index time y => exact stored_addTimed index time y
  | clear index => exact stored_clear h index
  | replot index => exact stored_replot h index
  | takeChanges => rfl

/-- Styles and data that are joined by position are those of the same plots. -/
theorem zipWith_styled {α : Type} (data : α → PlotData) (plots : List (Styled α)) :
    List.zipWith Plot.mk (plots.map Styled.style) ((plots.map Styled.content).map data) =
      plots.map fun plot => ⟨plot.style, data plot.content⟩ := by
  rw [List.map_map, List.zipWith_map, List.zipWith_self]
  rfl

theorem picture_stored {chart : Chart} (h : chart.WithinRoom) :
    chart.stored.picture = chart.picture := by
  have hplots : List.zipWith Plot.mk chart.series.styles chart.series.buffers.data =
      chart.series.draw := by
    cases hseries : chart.series with
    | time plots => exact zipWith_styled TimeTrace.data plots
    | xy plots => exact zipWith_styled (fun trace => .points trace.points) plots
    | dial plots => exact zipWith_styled .value plots
    | bar plots =>
        cases plots with
        | nil => rfl
        | cons plot others =>
            have hindex : 0 < chart.plotCount := by
              rw [plotCount_of_series .bar hseries]
              exact Nat.succ_pos _
            obtain ⟨-, only, honly⟩ := exists_bar_of_lt h hseries hindex
            rw [honly]
            rfl
  unfold StoredChart.picture picture
  rw [kind_stored, ← hplots]
  rfl

theorem observe_stored {chart : Chart} (h : chart.WithinRoom) (result : CallResult) :
    chart.stored.observe result = chart.observe result := by
  unfold StoredChart.observe observe
  rw [picture_stored h]
  rfl

/-- Nothing fails in the course of calls, and the same is seen. -/
theorem stored_run {chart : Chart} (h : chart.WithinRoom) (calls : List ChartCall) :
    chart.stored.run calls = some (chart.observations calls, (chart.afterCalls calls).stored) := by
  induction calls generalizing chart with
  | nil => rfl
  | cons call calls ih =>
      have hnext := h.call call
      rw [StoredChart.run, stored_call h]
      change ((chart.call call).2.stored.run calls).bind _ = _
      rw [ih hnext]
      change some ((chart.call call).2.stored.observe _ :: _, _) = _
      rw [observe_stored hnext]
      rfl

/-- The bars of a chart are numbered from one. -/
theorem x_of_bar {calls : List ChartCall} {plots : List (Styled CursorTrace)}
    (hseries : (ofCalls .bar calls).series = .bar plots) {k : Nat} {bar : Point}
    (hbar : (barTrace plots).points[k]? = some bar) : bar.x = .ofNat (k + 1) := by
  cases plots with
  | nil => cases hbar
  | cons plot others =>
      have hindex : 0 < (ofCalls .bar calls).plotCount := by
        rw [plotCount_of_series .bar hseries]
        exact Nat.succ_pos _
      have hshown : (ofCalls .bar calls).drawn? 0 = some (.points plot.content.points) := by
        simp [drawn?, picture, hseries, Series.draw]
      obtain ⟨before, after, rfl, hadded⟩ := exists_plotAdded.mp hindex
      obtain ⟨points, hdrawn, hover⟩ := PassForm.governs_bar.drawn?_ofCalls hadded
      obtain rfl : plot.content.points = points :=
        PlotData.points.inj (Option.some.inj (hshown.symm.trans hdrawn))
      obtain ⟨hk, -⟩ := List.getElem?_eq_some_iff.mp hbar
      obtain ⟨_, _, _, value, -, -, -, hpoint⟩ := hover.latest k hk
      have hnumbered : bar = PassForm.bar.point k value := Option.some.inj (hbar.symm.trans hpoint)
      rw [hnumbered, PassForm.bar]

theorem fit_ofCalls (kind : ChartKind) (calls : List ChartCall) :
    (ofCalls kind calls).stored.buffers.Fit (ofCalls kind calls).plotCount := by
  have hroom := withinRoom_ofCalls kind calls
  have hcursors := cursorsFit_ofCalls kind calls
  have hkind := kind_ofCalls kind calls
  change (ofCalls kind calls).series.buffers.Fit _
  cases hseries : (ofCalls kind calls).series with
  | time plots =>
      rw [plotCount_of_series .time hseries]
      exact List.length_map _
  | dial plots =>
      rw [plotCount_of_series .dial hseries]
      exact List.length_map _
  | xy plots =>
      rw [hseries] at hcursors
      rw [plotCount_of_series .xy hseries]
      refine ⟨List.length_map _, fun trace htrace => ?_⟩
      obtain ⟨plot, hplot, rfl⟩ := List.mem_map.mp htrace
      exact hcursors plot hplot
  | bar plots =>
      obtain rfl : kind = .bar := by rw [← hkind, Chart.kind, hseries]; rfl
      refine ⟨hroom 1 (by rw [hkind]; rfl), Nat.succ_pos _, Nat.succ_le_succ ?_, fun k bar hbar =>
        x_of_bar hseries hbar⟩
      rw [hseries] at hcursors
      cases plots with
      | nil => exact Nat.le_refl 0
      | cons plot others => exact hcursors plot List.mem_cons_self

theorem suits_of_mem_draw {series : Series} {plot : Plot} (h : plot ∈ series.draw) :
    plot.data.Suits series.kind := by
  unfold PlotData.Suits
  cases series with
  | time plots | bar plots | xy plots =>
      obtain ⟨_, -, rfl⟩ := List.mem_map.mp h
      exact ⟨_, rfl⟩
  | dial plots =>
      obtain ⟨_, -, rfl⟩ := List.mem_map.mp h
      exact ⟨_, rfl⟩

theorem hasShape_ofCalls (kind : ChartKind) (calls : List ChartCall) :
    (ofCalls kind calls).stored.HasShape kind := by
  have hroom := withinRoom_ofCalls kind calls
  have hkind := kind_ofCalls kind calls
  refine ⟨(kind_stored _).trans hkind, fit_ofCalls kind calls, fun call index hplot hle => ?_, ?_,
    fun plot hplot => ?_⟩
  · rw [← hkind, ← kind_stored] at hplot
    rw [StoredChart.call_of_le hplot hle, kind_stored, hkind]
  · rw [picture_stored hroom]
    exact length_draw _
  · rw [picture_stored hroom] at hplot
    rw [← hkind]
    exact suits_of_mem_draw hplot

/-- However a chart is called, no access to its buffers fails, and the same is seen as if style and
content of each plot were one. -/
theorem stored_calls_keep_shape (kind : ChartKind) (calls : List ChartCall) :
    ∃ stored,
      (StoredChart.create kind).run calls = some ((create kind).observations calls, stored) ∧
      stored.picture = (ofCalls kind calls).picture ∧ stored.HasShape kind := by
  have hrun := stored_run (withinRoom_blank kind {}) calls
  rw [stored_blank] at hrun
  exact ⟨_, hrun, picture_stored (withinRoom_ofCalls kind calls), hasShape_ofCalls kind calls⟩

/-- A bar chart that takes no second plot, refuses the values for it, and is written over. -/
theorem stored_calls_keep_shape_of_bars :
    let calls : List ChartCall := [.addPlot, .addPlot, .addValue 0 0 .zero, .addValue 0 1 .zero,
      .replot 0, .addValue 0 0 (.infinite true), .takeChanges]
    ∃ stored,
      (StoredChart.create .bar).run calls = some ((create .bar).observations calls, stored) ∧
      stored.picture.plots.map Plot.data = [.points [⟨.ofNat 1, .infinite true⟩]] ∧
      stored.call (.clear 1) = some (.refused (.noSuchPlot .bar 1 1), stored) := by
  intro calls
  obtain ⟨stored, hrun, hpicture, hshape⟩ := stored_calls_keep_shape .bar calls
  have hcount : stored.plotCount = 1 := by
    rw [← hshape.drawn, hpicture]
    rfl
  refine ⟨stored, hrun, ?_, ?_⟩
  · rw [hpicture]
    rfl
  · rw [hshape.noSuchPlot (.clear 1) 1 rfl (Nat.le_of_eq hcount), hcount]

end Chart

end ChartBoard
