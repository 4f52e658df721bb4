import ChartBoard.Proofs.Chart.CallOutcomes
import ChartBoard.Proofs.Chart.Passes

/-!
Charts in the plane and bar charts by their calls. Both write at cursors, and they differ in the
calls that give values and in the points that these become (`PassForm`). A call does one step with
the trace of one plot, or none (`PassForm.act?`). So a plot that is there shows the passes that the
calls have made over it since it was added or last cleared, drawn over each other
(`Chart.passes_drawn_over_each_other`), and calls on other plots do not show in it.
-/

namespace ChartBoard

/-- A kind of chart that writes at cursors: which value a call gives to which plot, and which point
a value becomes at its place in a pass. -/
structure PassForm (α : Type) where
  kind : ChartKind
  point : Nat → α → Point
  given? : ChartCall → Option (Nat × α)

namespace PassForm

/-- In the plane points are drawn as they are given. -/
def xy : PassForm Point where
  kind := .xy
  point _ p := p
  given?
    | .addPoint index p => some (index, p)
    | _ => none

/-- Values become bars, which are numbered from one. -/
def bar : PassForm Binary64 where
  kind := .bar
  point n y := ⟨.ofNat (n + 1), y⟩
  given?
    | .addValue _ index y => some (index, y)
    | _ => none

variable {α : Type} (form : PassForm α)

/-- The plot whose trace a call works on, and what it does there. -/
def act? : ChartCall → Option (Nat × PassStep α)
  | .clear index => some (index, .clear)
  | .replot index => some (index, .rewind)
  | call => (form.given? call).map fun given => (given.1, .write given.2)

/-- What a call does to the trace of the plot with an index, if anything. -/
def step? (index : Nat) (call : ChartCall) : Option (PassStep α) :=
  (form.act? call).bind fun act => if act.1 = index then some act.2 else none

/-- The passes that some calls make over the plot with an index since it was last cleared. -/
def passes (index : Nat) (calls : List ChartCall) : List (List α) :=
  PassStep.passes (calls.filterMap (form.step? index))

end PassForm

namespace Chart

/-- The traces of a chart that writes at cursors. -/
def cursorTraces (chart : Chart) : List CursorTrace :=
  match chart.series with
  | .bar plots | .xy plots => plots.map Styled.content
  | _ => []

/-- A chart whose plots are traces that are written at cursors. -/
def Traces (plots : List (Styled CursorTrace)) (chart : Chart) : Prop :=
  chart.series = .xy plots ∨ chart.series = .bar plots

theorem exists_traces {chart : Chart} (h : chart.kind = .xy ∨ chart.kind = .bar) :
    ∃ plots, chart.Traces plots := by
  unfold Chart.kind at h
  unfold Traces
  cases hseries : chart.series with
  | xy plots => exact ⟨plots, .inl rfl⟩
  | bar plots => exact ⟨plots, .inr rfl⟩
  | time | dial =>
      rw [hseries] at h
      rcases h with h | h <;> cases h

namespace Traces

variable {chart next : Chart} {plots : List (Styled CursorTrace)} (h : chart.Traces plots)

include h

theorem cursorTraces_eq : chart.cursorTraces = plots.map Styled.content := by
  rcases h with h | h <;> rw [cursorTraces, h]

theorem length_cursorTraces : chart.cursorTraces.length = chart.plotCount := by
  rw [h.cursorTraces_eq, List.length_map]
  rcases h with h | h
  · rw [plotCount_of_series .xy h]
  · rw [plotCount_of_series .bar h]

theorem drawn? {index : Nat} {trace : CursorTrace}
    (htrace : chart.cursorTraces[index]? = some trace) :
    chart.drawn? index = some (.points trace.points) := by
  rw [h.cursorTraces_eq, List.getElem?_map] at htrace
  obtain ⟨plot, hplot, rfl⟩ := Option.map_eq_some_iff.mp htrace
  rcases h with h | h <;> simp [Chart.drawn?, picture, h, Series.draw, hplot]

theorem cursorTraces_addPlot (hadd : chart.addPlot = .ok next) :
    next.cursorTraces = chart.cursorTraces ++ [({} : CursorTrace)] := by
  have hnext : next.Traces (plots ++ [⟨chart.styleForPlot, {}⟩]) := by
    rw [eq_of_addPlot hadd]
    rcases h with h | h
    · exact .inl (by rw [h]; rfl)
    · exact .inr (by rw [h]; rfl)
  rw [hnext.cursorTraces_eq, h.cursorTraces_eq, List.map_append]
  rfl

theorem cursorTraces_update {index : Nat} {f : CursorTrace → CursorTrace}
    (hnext : next.Traces (Styled.update index f plots)) :
    next.cursorTraces = chart.cursorTraces.modify index f := by
  rw [hnext.cursorTraces_eq, Styled.map_content_update, h.cursorTraces_eq]

theorem cursorTraces_clear (index : Nat) :
    (chart.call (.clear index)).2.cursorTraces = chart.cursorTraces.modify index fun _ => {} := by
  have hlength := h.length_cursorTraces
  rcases id h with hseries | hseries
  · exact contents_conclude hlength (by rw [clear, hseries]; rfl)
      (h.cursorTraces_update (.inl rfl)) _
  · exact contents_conclude hlength (by rw [clear, hseries]; rfl)
      (h.cursorTraces_update (.inr rfl)) _

theorem cursorTraces_replot (index : Nat) : (chart.call (.replot index)).2.cursorTraces =
    chart.cursorTraces.modify index CursorTrace.rewind := by
  have hlength := h.length_cursorTraces
  rcases id h with hseries | hseries
  · exact contents_conclude hlength (by rw [replot, hseries]; rfl)
      (h.cursorTraces_update (.inl rfl)) _
  · exact contents_conclude hlength (by rw [replot, hseries]; rfl)
      (h.cursorTraces_update (.inr rfl)) _

end Traces

theorem cursorTraces_conclude {chart : Chart} {step : Chart → Except Refusal Chart}
    (h : ∀ next, step chart = .ok next → next.cursorTraces = chart.cursorTraces)
    (result : CallResult) :
    (chart.conclude result step).2.cursorTraces = chart.cursorTraces := by
  unfold conclude
  split
  · rename_i next hnext
    exact h next hnext
  · rfl

theorem cursorTraces_setAttribute {chart : Chart} (name value : String) :
    (chart.call (.setAttribute name value)).2.cursorTraces = chart.cursorTraces := by
  refine cursorTraces_conclude (fun next hnext => ?_) _
  obtain ⟨attributes, rfl⟩ := eq_of_setAttribute hnext
  rfl

/-- A point that is given in the plane is written to its trace. -/
theorem cursorTraces_addPoint {chart : Chart} {plots : List (Styled CursorTrace)}
    (hseries : chart.series = .xy plots) (index : Nat) (point : Point) :
    (chart.call (.addPoint index point)).2.cursorTraces =
      chart.cursorTraces.modify index fun trace => trace.write point := by
  have htraces : chart.Traces plots := .inl hseries
  exact contents_conclude htraces.length_cursorTraces (by rw [addPoint, hseries]; rfl)
    (htraces.cursorTraces_update (.inl rfl)) _

/-- A value that is given to a bar chart is written to its trace as the bar under the cursor. -/
theorem cursorTraces_addValue {chart : Chart} {plots : List (Styled CursorTrace)}
    (hseries : chart.series = .bar plots) (now : Int) (index : Nat) (y : Binary64) :
    (chart.call (.addValue now index y)).2.cursorTraces =
      chart.cursorTraces.modify index fun trace => trace.write ⟨.ofNat (trace.cursor + 1), y⟩ := by
  have htraces : chart.Traces plots := .inr hseries
  refine contents_conclude htraces.length_cursorTraces (by rw [addValue, hseries]; rfl) ?_ _
  rw [htraces.cursorTraces_update (f := CursorTrace.write (nextBar index y plots)) (.inr rfl),
    htraces.cursorTraces_eq]
  apply List.ext_getElem?
  intro i
  rw [List.getElem?_modify, List.getElem?_modify]
  by_cases hi : index = i
  · subst hi
    cases hplot : plots[index]? with
    | none => simp [hplot]
    | some plot => simp [hplot, nextBar]
  · simp [hi]

end Chart

open Chart

namespace PassForm

variable {α : Type}

/-- The calls of such charts work on the traces as the form says. -/
structure Governs (form : PassForm α) : Prop where
  kind : form.kind = .xy ∨ form.kind = .bar
  edits {call : ChartCall} {act : Nat × PassStep α} : form.act? call = some act → call.edits = true
  acts {chart : Chart} {call : ChartCall} : chart.kind = form.kind → call.edits = true →
    (chart.call call).2.cursorTraces =
      match form.act? call with
      | some (index, step) => chart.cursorTraces.modify index fun trace => step.run form.point trace
      | none => chart.cursorTraces

theorem governs_xy : xy.Governs where
  kind := .inl rfl
  edits {call _} h := by cases call <;> first | rfl | cases h
  acts {chart call} hkind hedits := by
    obtain ⟨plots, htraces⟩ := exists_traces (.inl hkind)
    have hseries : chart.series = .xy plots := htraces.resolve_right fun hbar => by
      rw [Chart.kind, hbar] at hkind
      cases hkind
    cases call with
    | init | addPlot | takeChanges => cases hedits
    | setAttribute name value => exact cursorTraces_setAttribute name value
    | addPoint index point => exact cursorTraces_addPoint hseries index point
    | clear index => exact htraces.cursorTraces_clear index
    | replot index => exact htraces.cursorTraces_replot index
    | addValue now index y =>
        exact cursorTraces_conclude
          (fun _ hnext => by rw [addValue, hseries] at hnext; cases hnext) _
    | addTimed index time y =>
        exact cursorTraces_conclude
          (fun _ hnext => by rw [addTimed, hseries] at hnext; cases hnext) _

theorem governs_bar : bar.Governs where
  kind := .inr rfl
  edits {call _} h := by cases call <;> first | rfl | cases h
  acts {chart call} hkind hedits := by
    obtain ⟨plots, htraces⟩ := exists_traces (.inr hkind)
    have hseries : chart.series = .bar plots := htraces.resolve_left fun hxy => by
      rw [Chart.kind, hxy] at hkind
      cases hkind
    cases call with
    | init | addPlot | takeChanges => cases hedits
    | setAttribute name value => exact cursorTraces_setAttribute name value
    | addValue now index y => exact cursorTraces_addValue hseries now index y
    | clear index => exact htraces.cursorTraces_clear index
    | replot index => exact htraces.cursorTraces_replot index
    | addPoint index point =>
        exact cursorTraces_conclude
          (fun _ hnext => by rw [addPoint, hseries] at hnext; cases hnext) _
    | addTimed index time y =>
        exact cursorTraces_conclude
          (fun _ hnext => by rw [addTimed, hseries] at hnext; cases hnext) _

section Runs

variable {form : PassForm α} (hform : form.Governs)

include hform

/-- A trace that is there goes through what a call does to it. -/
theorem Governs.getElem?_call {chart : Chart} (hkind : chart.kind = form.kind) {index : Nat}
    {trace : CursorTrace} (h : chart.cursorTraces[index]? = some trace) {call : ChartCall}
    (hcall : call ≠ .init) : (chart.call call).2.cursorTraces[index]? =
      some ((form.step? index call).toList.foldl (PassStep.run form.point) trace) := by
  by_cases hedits : call.edits = true
  · rw [hform.acts hkind hedits, step?]
    cases form.act? call with
    | none => exact h
    | some act =>
        obtain ⟨i, step⟩ := act
        dsimp only
        rw [List.getElem?_modify, h]
        by_cases hi : i = index <;> simp [hi]
  · obtain ⟨plots, htraces⟩ := exists_traces (hkind ▸ hform.kind)
    have hnone : form.act? call = none := by
      by_contra hsome
      obtain ⟨act, hact⟩ := Option.ne_none_iff_exists'.mp hsome
      exact hedits (hform.edits hact)
    rw [step?, hnone]
    have houtcome := call_outcome call chart
    generalize chart.call call = done at houtcome ⊢
    cases houtcome with
    | refused hother | works hother => exact absurd hother hedits
    | configures => exact absurd rfl hedits
    | starts => exact absurd rfl hcall
    | full | settles => exact h
    | addsPlot hadd =>
        obtain ⟨hlt, -⟩ := List.getElem?_eq_some_iff.mp h
        rw [htraces.cursorTraces_addPlot hadd, List.getElem?_append_left hlt]
        exact h

theorem Governs.getElem?_afterCalls {chart : Chart} (hkind : chart.kind = form.kind) {index : Nat}
    {trace : CursorTrace} (h : chart.cursorTraces[index]? = some trace) {calls : List ChartCall}
    (hcalls : ∀ call ∈ calls, call ≠ .init) : (chart.afterCalls calls).cursorTraces[index]? =
      some ((calls.filterMap (form.step? index)).foldl (PassStep.run form.point) trace) := by
  induction calls generalizing chart trace with
  | nil => exact h
  | cons call calls ih =>
      obtain ⟨hcall, hrest⟩ := List.forall_mem_cons.mp hcalls
      have hlater :=
        ih ((kind_call call chart).trans hkind) (hform.getElem?_call hkind h hcall) hrest
      change ((chart.call call).2.afterCalls calls).cursorTraces[index]? = _
      rw [hlater, ← List.foldl_append]
      cases hstep : form.step? index call with
      | none => rw [List.filterMap_cons_none hstep]; rfl
      | some step => rw [List.filterMap_cons_some hstep]; rfl

/-- The trace of a plot that has been added is what the calls since then have done to an empty
one. -/
theorem Governs.getElem?_ofCalls {index : Nat} {before after : List ChartCall}
    (hadded : PlotAdded form.kind index before after) :
    (ofCalls form.kind (before ++ .addPlot :: after)).cursorTraces[index]? =
      some ((after.filterMap (form.step? index)).foldl (PassStep.run form.point) {}) := by
  have hkind := kind_ofCalls form.kind before
  obtain ⟨plots, htraces⟩ := exists_traces (hkind.symm ▸ hform.kind)
  obtain ⟨next, hnext⟩ := addPlot_isOk_iff.mpr hadded.hasRoom
  have hcall : ((ofCalls form.kind before).call .addPlot).2 = next := by
    change ((ofCalls form.kind before).conclude _ addPlot).2 = next
    rw [conclude, hnext]
  have hempty : next.cursorTraces[index]? = some {} := by
    rw [htraces.cursorTraces_addPlot hnext, ← hadded.plotCount, ← htraces.length_cursorTraces]
    exact List.getElem?_concat_length
  rw [ofCalls_append]
  change (((ofCalls form.kind before).call .addPlot).2.afterCalls after).cursorTraces[index]? = _
  rw [hcall]
  exact hform.getElem?_afterCalls ((of_addPlot hnext).2.1.trans hkind) hempty hadded.kept

/-- What is drawn of it follows the passes. -/
theorem Governs.drawn?_ofCalls {index : Nat} {before after : List ChartCall}
    (hadded : PlotAdded form.kind index before after) : ∃ points,
      (ofCalls form.kind (before ++ .addPlot :: after)).drawn? index = some (.points points) ∧
        DrawnOver form.point (form.passes index after) points := by
  have hkind := kind_ofCalls form.kind (before ++ .addPlot :: after)
  obtain ⟨plots, htraces⟩ := exists_traces (hkind.symm ▸ hform.kind)
  exact ⟨_, htraces.drawn? (hform.getElem?_ofCalls hadded),
    (CursorTrace.follows_run form.point _).drawn⟩

/-- A call that does nothing with the trace of a plot does not show in it. -/
theorem Governs.drawn?_call {index : Nat} {calls : List ChartCall} {call : ChartCall}
    (hindex : index < (ofCalls form.kind calls).plotCount) (hcall : call ≠ .init)
    (hnone : form.step? index call = none) : (ofCalls form.kind (calls ++ [call])).drawn? index =
      (ofCalls form.kind calls).drawn? index := by
  obtain ⟨before, after, rfl, hadded⟩ := exists_plotAdded.mp hindex
  have hlater : PlotAdded form.kind index before (after ++ [call]) :=
    ⟨hadded.plotCount, hadded.hasRoom, by
      rw [List.forall_mem_append, List.forall_mem_singleton]
      exact ⟨hadded.kept, hcall⟩⟩
  have htraces (calls : List ChartCall) : ∃ plots, (ofCalls form.kind calls).Traces plots :=
    exists_traces ((kind_ofCalls form.kind calls).symm ▸ hform.kind)
  obtain ⟨_, hold⟩ := htraces (before ++ .addPlot :: after)
  obtain ⟨_, hnew⟩ := htraces (before ++ .addPlot :: (after ++ [call]))
  rw [List.append_assoc, List.cons_append, hold.drawn? (hform.getElem?_ofCalls hadded),
    hnew.drawn? (hform.getElem?_ofCalls hlater), List.filterMap_append,
    List.filterMap_cons_none hnone, List.filterMap_nil, List.append_nil]

end Runs

/-- The plots of such a chart after some calls show the passes made over them. -/
structure DrawsPasses (form : PassForm α) (calls : List ChartCall) (index : Nat) : Prop where
  /-- Each plot that is there has been added by one of the calls. -/
  added_iff : index < (ofCalls form.kind calls).plotCount ↔
    ∃ before after, calls = before ++ .addPlot :: after ∧ PlotAdded form.kind index before after
  /-- It shows the passes since then, or since it was last cleared, drawn over each other. -/
  drawn : ∀ before after, calls = before ++ .addPlot :: after →
    PlotAdded form.kind index before after → ∃ points,
      (ofCalls form.kind calls).drawn? index = some (.points points) ∧
        DrawnOver form.point (form.passes index after) points
  /-- Calls on other plots do not show in it. -/
  unmoved : ∀ call, call ≠ .init → form.step? index call = none →
    index < (ofCalls form.kind calls).plotCount →
    (ofCalls form.kind (calls ++ [call])).drawn? index = (ofCalls form.kind calls).drawn? index

theorem Governs.drawsPasses {form : PassForm α} (hform : form.Governs) (calls : List ChartCall)
    (index : Nat) : form.DrawsPasses calls index where
  added_iff := exists_plotAdded
  drawn := by
    rintro before after rfl hadded
    exact hform.drawn?_ofCalls hadded
  unmoved _ hcall hnone hindex := hform.drawn?_call hindex hcall hnone

end PassForm

namespace Chart

/-- A plot in the plane, or of bars, shows the passes that have been made over it since it was added
or last cleared: as many points as the longest pass has, each from the latest pass that reaches it.
The bar at a place of a pass bears the number of the place, counted from one. -/
theorem passes_drawn_over_each_other (calls : List ChartCall) (index : Nat) :
    PassForm.xy.DrawsPasses calls index ∧ PassForm.bar.DrawsPasses calls index :=
  ⟨PassForm.governs_xy.drawsPasses calls index, PassForm.governs_bar.drawsPasses calls index⟩

/-- A pass of two bars and one of a single bar over it, and the same in the plane beside another
plot. -/
theorem passes_drawn_over_each_other_shorter_pass :
    let bars : List ChartCall := [.addValue 0 0 (.ofNat 5), .addValue 0 0 (.ofNat 6), .replot 0,
      .addValue 0 0 (.ofNat 7)]
    let points : List ChartCall :=
      [.addPoint 0 ⟨.zero, .zero⟩, .addPlot, .addPoint 1 ⟨.zero, .zero⟩,
        .addPoint 0 ⟨.ofNat 1, .zero⟩, .replot 0, .addPoint 0 ⟨.zero, .ofNat 1⟩]
    (PlotAdded .bar 0 [] bars ∧ ∃ drawn,
      (ofCalls .bar (.addPlot :: bars)).drawn? 0 = some (.points drawn) ∧
        DrawnOver PassForm.bar.point [[.ofNat 5, .ofNat 6], [.ofNat 7]] drawn) ∧
    (PlotAdded .xy 0 [] points ∧ ∃ drawn,
      (ofCalls .xy (.addPlot :: points)).drawn? 0 = some (.points drawn) ∧
        DrawnOver PassForm.xy.point
          [[⟨.zero, .zero⟩, ⟨.ofNat 1, .zero⟩], [⟨.zero, .ofNat 1⟩]] drawn) := by
  intro bars points
  have hbars : PlotAdded .bar 0 [] bars := by
    refine ⟨rfl, fun most hmost => ?_, by simp [bars]⟩
    obtain rfl := Option.some.inj hmost
    exact Nat.one_pos
  have hpoints : PlotAdded .xy 0 [] points :=
    ⟨rfl, fun most hmost => (nomatch hmost), by simp [points]⟩
  have hcut (a b c : Binary64) : PassForm.bar.passes 0
      [.addValue 0 0 a, .addValue 0 0 b, .replot 0, .addValue 0 0 c] = [[a, b], [c]] := rfl
  have hcut' (o a b c : Point) : PassForm.xy.passes 0
      [.addPoint 0 a, .addPlot, .addPoint 1 o, .addPoint 0 b, .replot 0, .addPoint 0 c] =
        [[a, b], [c]] := rfl
  refine ⟨⟨hbars, ?_⟩, hpoints, ?_⟩
  · rw [← hcut]
    exact (passes_drawn_over_each_other (.addPlot :: bars) 0).2.drawn [] bars rfl hbars
  · rw [← hcut' ⟨.zero, .zero⟩]
    exact (passes_drawn_over_each_other (.addPlot :: points) 0).1.drawn [] points rfl hpoints

end Chart

end ChartBoard
