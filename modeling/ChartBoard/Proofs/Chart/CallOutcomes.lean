import ChartBoard.Proofs.Chart.Calls
import Mathlib.Data.List.Induction

/-!
What a call can do to a chart. There are few outcomes (`Chart.CallOutcome`): the call is refused,
sets an attribute, starts the chart again, adds a plot, works on plots that are there, or takes the
changes. So what every outcome keeps holds of a new chart after any calls (`Chart.ofCalls_keeps`),
and a plot that is there has been added by one of the calls and kept by those behind it
(`Chart.exists_plotAdded`).
-/

namespace ChartBoard

namespace ChartCall

/-- A call that changes an attribute or plots that are there: it neither starts the chart again nor
adds a plot, and leaves the changes with the chart. -/
def edits : ChartCall → Bool
  | init | addPlot | takeChanges => false
  | _ => true

theorem ne_of_edits {call : ChartCall} (h : call.edits = true) :
    call ≠ .init ∧ call ≠ .addPlot := by
  constructor <;> rintro rfl <;> cases h

end ChartCall

namespace Chart

/-- All that a call can do to a chart, and its result. -/
inductive CallOutcome (chart : Chart) : ChartCall → CallResult × Chart → Prop where
  | refused {call : ChartCall} (hedits : call.edits = true) (refusal : Refusal) :
      CallOutcome chart call (.refused refusal, chart)
  | full {refusal : Refusal} (hfull : chart.addPlot = .error refusal) :
      CallOutcome chart .addPlot (.refused refusal, chart)
  | configures {name value : String} (attributes : Attributes) :
      CallOutcome chart (.setAttribute name value) (.done, { chart with attributes := attributes })
  | starts : CallOutcome chart .init (.done, chart.init)
  | addsPlot {next : Chart} (hadd : chart.addPlot = .ok next) :
      CallOutcome chart .addPlot (.added chart.nextHandle, next)
  | works {call : ChartCall} (hedits : call.edits = true) {next : Chart}
      (hadvances : chart.Advances next) : CallOutcome chart call (.done, next)
  | settles : CallOutcome chart .takeChanges (.taken chart.pending, chart.settled)

/-- A call by a step that the outline of the chart rules. -/
theorem outcome_of_ruled {step : Chart → Except Refusal Chart} {refusal? : Outline → Option Refusal}
    (h : Ruled step refusal?) (chart : Chart) {call : ChartCall} (hedits : call.edits = true) :
    chart.CallOutcome call (chart.conclude .done step) := by
  unfold conclude
  rcases attempt_cases h chart with ⟨refusal, hrefusal, -⟩ | ⟨-, next, hstep, -, hadvances⟩
  · rw [h.refuses hrefusal]
    exact .refused hedits refusal
  · rw [hstep]
    exact .works hedits hadvances

theorem call_outcome (call : ChartCall) (chart : Chart) :
    chart.CallOutcome call (chart.call call) := by
  cases call with
  | setAttribute name value =>
      change chart.CallOutcome _ (chart.conclude .done (setAttribute name value))
      unfold conclude
      split
      · rename_i next hnext
        obtain ⟨attributes, rfl⟩ := eq_of_setAttribute hnext
        exact .configures attributes
      · exact .refused rfl _
  | init => exact .starts
  | addPlot =>
      change chart.CallOutcome _ (chart.conclude (.added chart.nextHandle) addPlot)
      unfold conclude
      split
      · rename_i next hnext
        exact .addsPlot hnext
      · rename_i refusal hfull
        exact .full hfull
  | addValue now index y => exact outcome_of_ruled (ruled_addValue now index y) chart rfl
  | addPoint index point => exact outcome_of_ruled (ruled_addPoint index point) chart rfl
  | addTimed index time y => exact outcome_of_ruled (ruled_addTimed index time y) chart rfl
  | clear index => exact outcome_of_ruled (ruled_clear index) chart rfl
  | replot index => exact outcome_of_ruled (ruled_replot index) chart rfl
  | takeChanges => exact .settles

theorem afterCalls_append (first second : List ChartCall) (chart : Chart) :
    chart.afterCalls (first ++ second) = (chart.afterCalls first).afterCalls second :=
  List.foldl_append

theorem afterCalls_concat (calls : List ChartCall) (call : ChartCall) (chart : Chart) :
    chart.afterCalls (calls ++ [call]) = ((chart.afterCalls calls).call call).2 :=
  afterCalls_append calls [call] chart

/-- A new chart of a kind after some calls. -/
def ofCalls (kind : ChartKind) (calls : List ChartCall) : Chart := (create kind).afterCalls calls

theorem ofCalls_append (kind : ChartKind) (first second : List ChartCall) :
    ofCalls kind (first ++ second) = (ofCalls kind first).afterCalls second :=
  afterCalls_append first second (create kind)

theorem ofCalls_concat (kind : ChartKind) (calls : List ChartCall) (call : ChartCall) :
    ofCalls kind (calls ++ [call]) = ((ofCalls kind calls).call call).2 :=
  afterCalls_concat calls call (create kind)

theorem kind_create (kind : ChartKind) : (create kind).kind = kind := by
  cases kind <;> rfl

theorem kind_ofCalls (kind : ChartKind) (calls : List ChartCall) :
    (ofCalls kind calls).kind = kind :=
  (kind_afterCalls calls (create kind)).trans (kind_create kind)

/-- What every call keeps, holds of a new chart after any calls. -/
theorem ofCalls_keeps {P : Chart → Prop} {kind : ChartKind} (hcreate : P (create kind))
    (hcall : ∀ chart call, P chart → P (chart.call call).2) (calls : List ChartCall) :
    P (ofCalls kind calls) := by
  induction calls using List.reverseRecOn with
  | nil => exact hcreate
  | append_singleton calls call ih =>
      rw [ofCalls_concat]
      exact hcall _ call ih

/-- After any calls the cursors of a chart fit their traces. -/
theorem cursorsFit_ofCalls (kind : ChartKind) (calls : List ChartCall) :
    (ofCalls kind calls).series.CursorsFit := by
  refine ofCalls_keeps (P := fun chart => chart.series.CursorsFit) (cursorsFit_empty kind) ?_ calls
  intro chart call h
  have houtcome := call_outcome call chart
  generalize chart.call call = done at houtcome ⊢
  cases houtcome with
  | refused | full | configures | settles => exact h
  | starts => exact cursorsFit_empty chart.kind
  | addsPlot hadd => exact (of_addPlot hadd).2.2.2.2 h
  | works _ hadvances => exact hadvances.cursorsFit h

/-- There is room for one more plot. -/
def HasRoom (chart : Chart) : Prop :=
  ∀ most, chart.kind.mostPlots? = some most → chart.plotCount < most

theorem plotCount_blank (kind : ChartKind) (attributes : Attributes) :
    (blank kind attributes).plotCount = 0 := by
  cases kind <;> rfl

/-- The plots that are there after a call: those that were, and one more if it is added. -/
theorem lt_plotCount_call {call : ChartCall} {chart : Chart} {index : Nat} :
    index < (chart.call call).2.plotCount ↔
      (call = .addPlot ∧ chart.plotCount = index ∧ chart.HasRoom) ∨
        (call ≠ .init ∧ index < chart.plotCount) := by
  have hroom : (∃ next, chart.addPlot = .ok next) ↔ chart.HasRoom := addPlot_isOk_iff
  have houtcome := call_outcome call chart
  generalize chart.call call = done at houtcome ⊢
  cases houtcome with
  | refused hedits => simp [ChartCall.ne_of_edits hedits]
  | works hedits hadvances => simp [ChartCall.ne_of_edits hedits, hadvances.plotCount]
  | full hfull =>
      have hnone : ¬chart.HasRoom := fun h => by
        obtain ⟨next, hnext⟩ := hroom.mpr h
        cases hfull.symm.trans hnext
      simp [hnone]
  | configures => simp [plotCount]
  | starts => simp [init, plotCount_blank]
  | addsPlot hadd =>
      have hhas : chart.HasRoom := hroom.mp ⟨_, hadd⟩
      simp only [(of_addPlot hadd).2.2.2.1, hhas]
      simp only [true_and, and_true, ne_eq, reduceCtorEq, not_false_eq_true]
      omega
  | settles => simp [plotCount, settled]

/-- A plot has been added between some calls and others, and none of these starts again. -/
structure PlotAdded (kind : ChartKind) (index : Nat) (before after : List ChartCall) : Prop where
  plotCount : (ofCalls kind before).plotCount = index
  hasRoom : (ofCalls kind before).HasRoom
  kept : ∀ call ∈ after, call ≠ .init

/-- Each plot that is there has been added by one of the calls. -/
theorem exists_plotAdded {kind : ChartKind} {calls : List ChartCall} {index : Nat} :
    index < (ofCalls kind calls).plotCount ↔ ∃ before after,
      calls = before ++ .addPlot :: after ∧ PlotAdded kind index before after := by
  induction calls using List.reverseRecOn with
  | nil =>
      have hnone : (ofCalls kind []).plotCount = 0 := plotCount_blank kind {}
      simp [hnone]
  | append_singleton calls call ih =>
      rw [ofCalls_concat, lt_plotCount_call, ih]
      constructor
      · rintro (⟨rfl, hcount, hroom⟩ | ⟨hcall, before, after, rfl, hadded⟩)
        · exact ⟨calls, [], rfl, hcount, hroom, fun call hcall => by cases hcall⟩
        · refine ⟨before, after ++ [call], by simp, hadded.plotCount, hadded.hasRoom, ?_⟩
          rw [List.forall_mem_append, List.forall_mem_singleton]
          exact ⟨hadded.kept, hcall⟩
      · rintro ⟨before, after, hcalls, hadded⟩
        rcases List.eq_nil_or_concat after with rfl | ⟨middle, last, rfl⟩
        · obtain ⟨rfl, hlast⟩ := List.append_inj' hcalls rfl
          exact .inl ⟨List.singleton_inj.mp hlast, hadded.plotCount, hadded.hasRoom⟩
        · rw [List.concat_eq_append, ← List.cons_append, ← List.append_assoc] at hcalls
          obtain ⟨hold, hlast⟩ := List.append_inj' hcalls rfl
          obtain rfl := List.singleton_inj.mp hlast
          have hkept := hadded.kept
          rw [List.concat_eq_append, List.forall_mem_append, List.forall_mem_singleton] at hkept
          exact .inr ⟨hkept.2, before, middle, hold, hadded.plotCount, hadded.hasRoom, hkept.1⟩

end Chart

theorem PlotColor.getElem?_palette (index : Nat) :
    palette[index % palette.length]? = some (ofIndex index) := by
  have hlt : index % palette.length < palette.length := Nat.mod_lt index (by decide)
  rw [ofIndex, List.getD_eq_getElem?_getD, List.getElem?_eq_getElem hlt]
  rfl

theorem Styled.map_content_update {α : Type} (index : Nat) (f : α → α) (plots : List (Styled α)) :
    (Styled.update index f plots).map Styled.content =
      (plots.map Styled.content).modify index f := by
  apply List.ext_getElem?
  intro i
  unfold Styled.update
  rw [List.getElem?_map, List.getElem?_modify, List.getElem?_modify, List.getElem?_map]
  cases plots[i]? with
  | none => rfl
  | some p => by_cases hi : index = i <;> simp [hi]

theorem Styled.map_style_update {α : Type} (index : Nat) (f : α → α) (plots : List (Styled α)) :
    (Styled.update index f plots).map Styled.style = plots.map Styled.style := by
  apply List.ext_getElem?
  intro i
  unfold Styled.update
  rw [List.getElem?_map, List.getElem?_modify, List.getElem?_map]
  cases plots[i]? with
  | none => rfl
  | some p => by_cases hi : index = i <;> simp [hi]

namespace Chart

/-- A step that looks for its plot first changes no content beyond the last, and that of its plot as
it would if the plot is there. -/
theorem contents_conclude {α : Type} {contents : Chart → List α} {chart next : Chart}
    (hlength : (contents chart).length = chart.plotCount) {index : Nat}
    {step : Chart → Except Refusal Chart} {f : α → α}
    (hstep : step chart = chart.checkPlot index >>= fun _ => .ok next)
    (hnext : contents next = (contents chart).modify index f) (result : CallResult) :
    contents (chart.conclude result step).2 = (contents chart).modify index f := by
  rw [conclude, hstep, bind_checkPlot]
  by_cases hindex : index < chart.plotCount
  · have hnone : chart.outline.plotRefusal? index = none := if_pos hindex
    rw [hnone]
    exact hnext
  · have hsome : chart.outline.plotRefusal? index =
        some (.noSuchPlot chart.kind index chart.plotCount) :=
      if_neg hindex
    rw [hsome, List.modify_eq_self]
    omega

/-- What is drawn of the plot with an index. -/
def drawn? (index : Nat) (chart : Chart) : Option PlotData :=
  (chart.picture.plots[index]?).map Plot.data

end Chart

end ChartBoard
