import ChartBoard.Proofs.Chart.CallOutcomes
import ChartBoard.Proofs.Chart.FiniteNumbers
import ChartBoard.Proofs.Chart.TraceWrites

/-!
Charts over time by their calls. A call adds a trace, writes to one, clears one, or leaves all of
them alone, and `init` removes them (`Chart.traces_call`). So a trace that is there is there since
the call that added it, what has been done to it since is read off the calls
(`Chart.getElem?_traces_afterCalls`), and it keeps what has been written to it since it was last
cleared (`TimeTrace.keeps_run`).
-/

namespace ChartBoard

/-- What a call does to a trace over time. -/
inductive TraceStep where
  | write (v : TimedValue)
  | clear

namespace TraceStep

def run (trace : TimeTrace) : TraceStep → TimeTrace
  | write v => trace.insert v
  | clear => { trace with values := [] }

/-- The values written since the trace was last cleared. -/
def record (written : List TimedValue) : TraceStep → List TimedValue
  | write v => written ++ [v]
  | clear => []

/-- The time of a value that is written is counted with 53 bits. -/
def Dated : TraceStep → Prop
  | write v => v.time.natAbs < 2 ^ 53
  | clear => True

@[simp] theorem maxAge_run (trace : TimeTrace) (step : TraceStep) :
    (step.run trace).maxAge = trace.maxAge := by
  cases step <;> rfl

end TraceStep

namespace TimeTrace

theorem Dated.record {written : List TimedValue} (h : Dated written) {step : TraceStep}
    (hstep : step.Dated) : Dated (step.record written) := by
  cases step with
  | write v =>
      intro w hw
      rcases List.mem_append.mp hw with hold | hnew
      · exact h w hold
      · rw [List.mem_singleton.mp hnew]
        exact hstep
  | clear => exact dated_nil

theorem Keeps.run {written : List TimedValue} {trace : TimeTrace}
    (h : Keeps trace.maxAge written trace.values) {step : TraceStep}
    (hdated : Dated (step.record written)) :
    Keeps trace.maxAge (step.record written) (step.run trace).values := by
  cases step with
  | write v => exact h.insert hdated.earliestTime_le
  | clear => exact keeps_nil trace.maxAge

/-- A trace keeps what has been written to it since it was last cleared. -/
theorem keeps_run (trace : TimeTrace) {steps : List TraceStep} (hdated : ∀ step ∈ steps, step.Dated)
    {written : List TimedValue} (h : Keeps trace.maxAge written trace.values)
    (hwritten : Dated written) : Dated (steps.foldl TraceStep.record written) ∧
      Keeps trace.maxAge (steps.foldl TraceStep.record written)
        (steps.foldl TraceStep.run trace).values := by
  induction steps generalizing written trace with
  | nil => exact ⟨hwritten, h⟩
  | cons step steps ih =>
      obtain ⟨hstep, hsteps⟩ := List.forall_mem_cons.mp hdated
      have hnext := hwritten.record hstep
      have hkeeps := h.run hnext
      rw [← TraceStep.maxAge_run trace step] at hkeeps ⊢
      exact ih _ hsteps hkeeps hnext

end TimeTrace

namespace ChartCall

/-- What a call does to the trace of the plot with an index, if anything. -/
def traceStep? (index : Nat) : ChartCall → Option TraceStep
  | addValue now i y => if i = index then some (.write ⟨now, y⟩) else none
  | addTimed i time y => if i = index then some (.write ⟨time, y⟩) else none
  | clear i => if i = index then some .clear else none
  | _ => none

/-- The traces after a call, if a new one has the given age. -/
def onTraces (maxAge : Nat) (traces : List TimeTrace) : ChartCall → List TimeTrace
  | init => []
  | addPlot => traces ++ [{ maxAge := maxAge }]
  | addValue now i y => traces.modify i fun trace => (TraceStep.write ⟨now, y⟩).run trace
  | addTimed i time y => traces.modify i fun trace => (TraceStep.write ⟨time, y⟩).run trace
  | clear i => traces.modify i fun trace => TraceStep.clear.run trace
  | _ => traces

/-- The times that a call brings are counted with 53 bits. -/
def Dated : ChartCall → Prop
  | addValue now _ _ => now.natAbs < 2 ^ 53
  | addTimed _ time _ => time.natAbs < 2 ^ 53
  | _ => True

/-- No wall clock shows other times. -/
theorem dated_addTimed (reading : Clock.Reading) (index : Nat) (t : Timestamp) (y : Binary64) :
    (addTimed index (reading.instant t) y).Dated :=
  reading.natAbs_instant_lt t

theorem Dated.traceStep {call : ChartCall} (h : call.Dated) {index : Nat} {step : TraceStep}
    (hstep : call.traceStep? index = some step) : step.Dated := by
  unfold traceStep? at hstep
  split at hstep
  · rw [← Option.some.inj (Option.ite_none_right_eq_some.mp hstep).2]
    exact h
  · rw [← Option.some.inj (Option.ite_none_right_eq_some.mp hstep).2]
    exact h
  · rw [← Option.some.inj (Option.ite_none_right_eq_some.mp hstep).2]
    trivial
  · cases hstep

/-- The values written to a plot in the course of some calls, since it was last cleared. -/
def writtenTo (index : Nat) (calls : List ChartCall) : List TimedValue :=
  (calls.filterMap (traceStep? index)).foldl TraceStep.record []

theorem getElem?_onTraces {traces : List TimeTrace} {index : Nat} {trace : TimeTrace}
    (h : traces[index]? = some trace) {call : ChartCall} (hcall : call ≠ .init) (maxAge : Nat) :
    (call.onTraces maxAge traces)[index]? =
      some (((call.traceStep? index).toList).foldl TraceStep.run trace) := by
  have hmodify (i : Nat) (step : TraceStep) :
      (traces.modify i fun trace => step.run trace)[index]? =
        some (((if i = index then some step else none).toList).foldl TraceStep.run trace) := by
    rw [List.getElem?_modify, h]
    by_cases hi : i = index <;> simp [hi]
  cases call with
  | init => exact absurd rfl hcall
  | addPlot =>
      obtain ⟨hlt, -⟩ := List.getElem?_eq_some_iff.mp h
      rw [onTraces, List.getElem?_append_left hlt]
      exact h
  | addValue now i y => exact hmodify i _
  | addTimed i time y => exact hmodify i _
  | clear i => exact hmodify i _
  | setAttribute | addPoint | replot | takeChanges => exact h

end ChartCall

namespace Chart

/-- The traces of a chart over time. -/
def traces (chart : Chart) : List TimeTrace :=
  match chart.series with
  | .time plots => plots.map Styled.content
  | _ => []

theorem traces_of_series {chart : Chart} {plots : List (Styled TimeTrace)}
    (h : chart.series = .time plots) : chart.traces = plots.map Styled.content := by
  rw [traces, h]

theorem exists_of_kind {chart : Chart} (h : chart.kind = .time) :
    ∃ plots, chart.series = .time plots := by
  unfold kind at h
  cases hseries : chart.series with
  | time plots => exact ⟨plots, rfl⟩
  | bar | xy | dial =>
      rw [hseries] at h
      cases h

theorem length_traces {chart : Chart} (h : chart.kind = .time) :
    chart.traces.length = chart.plotCount := by
  obtain ⟨plots, hseries⟩ := exists_of_kind h
  rw [traces_of_series hseries, plotCount_of_series .time hseries, List.length_map]

/-- The age that a trace added now has. -/
def nextMaxAge (chart : Chart) : Nat := TimeTrace.ageLimit chart.attributes.maxAgeSeconds.toNat

theorem traces_call {chart : Chart} (hkind : chart.kind = .time) (call : ChartCall) :
    (chart.call call).2.traces = call.onTraces chart.nextMaxAge chart.traces := by
  obtain ⟨plots, hseries⟩ := exists_of_kind hkind
  have htraces := traces_of_series hseries
  have hupdate (index : Nat) (edits : List Edit) (f : TimeTrace → TimeTrace) :
      (chart.record index edits (.time (Styled.update index f plots))).traces =
        chart.traces.modify index f := by
    rw [traces_of_series rfl, Styled.map_content_update, htraces]
  cases call with
  | setAttribute name value =>
      change (chart.conclude _ _).2.traces = chart.traces
      unfold conclude
      split
      · rename_i next hnext
        obtain ⟨attributes, rfl⟩ := eq_of_setAttribute hnext
        rfl
      · rfl
  | init =>
      change (blank chart.kind chart.attributes).traces = []
      rw [hkind]
      rfl
  | addPlot =>
      change (chart.conclude _ addPlot).2.traces = chart.traces ++ [_]
      obtain ⟨next, hnext⟩ := addPlot_isOk_iff.mpr fun most hmost => by
        rw [outline, hkind] at hmost
        cases hmost
      rw [conclude, hnext, eq_of_addPlot hnext, htraces]
      rw [traces_of_series (by rw [hseries]; rfl), List.map_append]
      rfl
  | addValue now index y =>
      exact contents_conclude (length_traces hkind) (by rw [addValue, hseries]; rfl)
        (hupdate index _ _) _
  | addTimed index time y =>
      exact contents_conclude (length_traces hkind) (by rw [addTimed, hseries]; rfl)
        (hupdate index _ _) _
  | clear index =>
      exact contents_conclude (length_traces hkind) (by rw [clear, hseries]; rfl)
        (hupdate index _ _) _
  | addPoint index point =>
      change (chart.conclude _ _).2.traces = chart.traces
      rw [conclude, addPoint, hseries]
  | replot index =>
      change (chart.conclude _ _).2.traces = chart.traces
      have hsame : chart.traces = chart.traces.modify index id := by simp
      exact (contents_conclude (length_traces hkind) (by rw [replot, hseries]; rfl) hsame _).trans
        hsame.symm
  | takeChanges => rfl

/-- A trace that is there goes through what the calls do to it, as long as none starts again. -/
theorem getElem?_traces_afterCalls {chart : Chart} (hkind : chart.kind = .time) {index : Nat}
    {trace : TimeTrace} (h : chart.traces[index]? = some trace) {calls : List ChartCall}
    (hcalls : ∀ call ∈ calls, call ≠ .init) : (chart.afterCalls calls).traces[index]? =
      some ((calls.filterMap (ChartCall.traceStep? index)).foldl TraceStep.run trace) := by
  induction calls generalizing chart trace with
  | nil => exact h
  | cons call calls ih =>
      obtain ⟨hcall, hrest⟩ := List.forall_mem_cons.mp hcalls
      have hnext := ChartCall.getElem?_onTraces h hcall chart.nextMaxAge
      rw [← traces_call hkind] at hnext
      have hlater := ih ((kind_call call chart).trans hkind) hnext hrest
      change ((chart.call call).2.afterCalls calls).traces[index]? = _
      rw [hlater, ← List.foldl_append]
      cases hstep : call.traceStep? index with
      | none => rw [List.filterMap_cons_none hstep]; rfl
      | some step => rw [List.filterMap_cons_some hstep]; rfl

theorem drawn?_of_trace {chart : Chart} {index : Nat} {trace : TimeTrace}
    (h : chart.traces[index]? = some trace) : chart.drawn? index = some trace.data := by
  unfold traces at h
  cases hseries : chart.series with
  | time plots =>
      rw [hseries, List.getElem?_map] at h
      obtain ⟨plot, hplot, rfl⟩ := Option.map_eq_some_iff.mp h
      simp only [drawn?, picture, hseries, Series.draw, List.getElem?_map, hplot, Option.map_some]
      rfl
  | bar | xy | dial =>
      rw [hseries] at h
      cases h

/-- A new chart over time after some calls. -/
def overTime (calls : List ChartCall) : Chart := (create .time).afterCalls calls

theorem kind_overTime (calls : List ChartCall) : (overTime calls).kind = .time :=
  kind_ofCalls .time calls

/-- A plot has been added between some calls and others, and none of these starts again. -/
structure AddedBetween (index : Nat) (before after : List ChartCall) : Prop where
  plotCount : (overTime before).plotCount = index
  kept : ∀ call ∈ after, call ≠ .init

/-- There is always room for one more plot over time. -/
theorem addedBetween_iff {index : Nat} {before after : List ChartCall} :
    AddedBetween index before after ↔ PlotAdded .time index before after := by
  have hroom : (overTime before).HasRoom := fun most hmost => by
    rw [kind_overTime] at hmost
    cases hmost
  exact ⟨fun h => ⟨h.plotCount, hroom, h.kept⟩, fun h => ⟨h.plotCount, h.kept⟩⟩

/-- A plot that has been added keeps what the calls since then have written to it. -/
theorem AddedBetween.keeps {index : Nat} {before after : List ChartCall}
    (h : AddedBetween index before after) (hdated : ∀ call ∈ after, call.Dated) :
    TimeTrace.Dated (ChartCall.writtenTo index after) ∧ ∃ values,
      (overTime (before ++ .addPlot :: after)).drawn? index =
        some (.points (values.map TimedValue.point)) ∧
      TimeTrace.Keeps (overTime before).nextMaxAge (ChartCall.writtenTo index after) values := by
  have hkind := kind_overTime before
  have hadded : ((overTime before).call .addPlot).2.traces[index]? =
      some { maxAge := (overTime before).nextMaxAge } := by
    rw [traces_call hkind, ChartCall.onTraces, ← h.plotCount, ← length_traces hkind]
    exact List.getElem?_concat_length
  have hrun := getElem?_traces_afterCalls ((kind_call .addPlot _).trans hkind) hadded h.kept
  have hsteps : ∀ step ∈ after.filterMap (ChartCall.traceStep? index), step.Dated := by
    intro step hstep
    obtain ⟨call, hcall, hof⟩ := List.mem_filterMap.mp hstep
    exact (hdated call hcall).traceStep hof
  have hempty := TimeTrace.keeps_nil (overTime before).nextMaxAge
  obtain ⟨hwritten, hkeeps⟩ := TimeTrace.keeps_run ⟨[], (overTime before).nextMaxAge⟩ hsteps hempty
    TimeTrace.dated_nil
  refine ⟨hwritten, _, ?_, hkeeps⟩
  rw [overTime, afterCalls_append]
  exact drawn?_of_trace hrun

/-- Each plot that is there has been added by one of the calls. -/
theorem exists_addedBetween {calls : List ChartCall} {index : Nat} :
    index < (overTime calls).plotCount ↔ ∃ before after,
      calls = before ++ .addPlot :: after ∧ AddedBetween index before after := by
  simp only [addedBetween_iff]
  exact exists_plotAdded

/-- What is drawn of a plot over time are the last writes to it: of what has been written to it
since it was added or last cleared, the last at each millisecond that is not older, beside the
latest, than the attributes allowed when it was added. So what is written at different times is
drawn the same whatever its order. -/
theorem time_plot_draws_last_writes {calls : List ChartCall} (hdated : ∀ call ∈ calls, call.Dated)
    (index : Nat) :
    (index < (overTime calls).plotCount ↔ ∃ before after,
      calls = before ++ .addPlot :: after ∧ AddedBetween index before after) ∧
    ∀ before after, calls = before ++ .addPlot :: after → AddedBetween index before after →
      (∃ values, (overTime calls).drawn? index = some (.points (values.map TimedValue.point)) ∧
        TimeTrace.DrawsLastWrites (overTime before).attributes.maxAgeSeconds.toNat
          (ChartCall.writtenTo index after) values) ∧
      ∀ index' before' after', (∀ call ∈ after', call.Dated) → AddedBetween index' before' after' →
        (overTime before').attributes.maxAgeSeconds = (overTime before).attributes.maxAgeSeconds →
        (ChartCall.writtenTo index' after').Perm (ChartCall.writtenTo index after) →
        (ChartCall.writtenTo index after).Pairwise (fun v w => v.time ≠ w.time) →
        (overTime (before' ++ .addPlot :: after')).drawn? index' =
          (overTime calls).drawn? index := by
  refine ⟨exists_addedBetween, ?_⟩
  rintro before after rfl hadded
  have hafter : ∀ call ∈ after, call.Dated := fun call hcall => hdated call (by simp [hcall])
  obtain ⟨hwritten, values, hdrawn, hkeeps⟩ := hadded.keeps hafter
  refine ⟨⟨values, hdrawn, hkeeps.drawsLastWrites hwritten⟩, ?_⟩
  intro index' before' after' hafter' hadded' hage hperm hdistinct
  obtain ⟨-, values', hdrawn', hkeeps'⟩ := hadded'.keeps hafter'
  have hsame : (overTime before').nextMaxAge = (overTime before).nextMaxAge := by
    rw [nextMaxAge, nextMaxAge, hage]
  rw [hsame] at hkeeps'
  rw [hdrawn, hdrawn', hkeeps.eq_of_perm hkeeps' hperm hdistinct]

/-- Three values at two milliseconds of a day, the later one first. -/
theorem time_plot_draws_last_writes_two_times :
    let later : Timestamp := ⟨2013, 1, 2, 10, 0, 5, 0, rfl, rfl⟩
    let sooner : Timestamp := ⟨2013, 1, 2, 10, 0, 0, 0, rfl, rfl⟩
    let instant := (0 : Clock.Reading).instant
    let after : List ChartCall := [.addTimed 0 (instant later) .zero,
      .addTimed 0 (instant sooner) .zero, .addTimed 0 (instant later) (.ofNat 1)]
    (∀ call ∈ .addPlot :: after, call.Dated) ∧ AddedBetween 0 [] after ∧
      ∃ values, (overTime (.addPlot :: after)).drawn? 0 =
          some (.points (values.map TimedValue.point)) ∧
        TimeTrace.DrawsLastWrites 60 [⟨instant later, .zero⟩, ⟨instant sooner, .zero⟩,
          ⟨instant later, .ofNat 1⟩] values := by
  intro later sooner instant after
  have hdated : ∀ call ∈ .addPlot :: after, call.Dated := by
    simp only [after, instant, List.forall_mem_cons, ChartCall.dated_addTimed, true_and]
    exact ⟨trivial, fun call hcall => by cases hcall⟩
  have hadded : AddedBetween 0 [] after := ⟨rfl, by simp [after]⟩
  exact ⟨hdated, hadded, ((time_plot_draws_last_writes hdated 0).2 [] after rfl hadded).1⟩

end Chart

end ChartBoard
