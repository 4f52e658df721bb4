import ChartBoard.Proofs.Chart.CallOutcomes

/-!
The changes that a chart hands out lead its old picture to the new one. Each call that edits plots
records changes that fit the picture before it and make the picture after it
(`Chart.replays_call`), so those of many calls, one list behind the other, do the same
(`Chart.taken_changes_replay`). Nothing is asked of the calls: they may name plots that are not
there, give numbers that are not finite, or be refused.
-/

namespace ChartBoard

namespace Picture

/-- The picture after changes one behind the other, if each of them fits when it is made. -/
def changeAll? (changes : List Change) (picture : Picture) : Option Picture :=
  changes.foldlM (fun picture change => picture.change? change) picture

theorem changeAll?_append (first second : List Change) (picture : Picture) :
    picture.changeAll? (first ++ second) = (picture.changeAll? first).bind (changeAll? second) :=
  List.foldlM_append

section OneAfterTheOther

variable {change : Change} {changes : List Change} {picture after : Picture}

theorem follow_cons_of_fits (h : picture.change? change = some after) :
    picture.follow (change :: changes) = after.follow changes := by
  rw [follow, h]

theorem follow_cons_of_misfit (h : picture.change? change = none) :
    picture.follow (change :: changes) = (picture, false) := by
  rw [follow, h]

theorem changeAll?_cons_of_fits (h : picture.change? change = some after) :
    picture.changeAll? (change :: changes) = after.changeAll? changes := by
  rw [changeAll?, List.foldlM_cons, h]
  rfl

theorem changeAll?_cons_of_misfit (h : picture.change? change = none) :
    picture.changeAll? (change :: changes) = none := by
  rw [changeAll?, List.foldlM_cons, h]
  rfl

/-- Following changes to the end is making all of them. -/
theorem follow_eq_true_iff :
    picture.follow changes = (after, true) ↔ picture.changeAll? changes = some after := by
  induction changes generalizing picture with
  | nil => simp [follow, changeAll?]
  | cons change changes ih =>
      cases hchange : picture.change? change with
      | none => simp [follow_cons_of_misfit hchange, changeAll?_cons_of_misfit hchange]
      | some middle => rw [follow_cons_of_fits hchange, changeAll?_cons_of_fits hchange, ih]

end OneAfterTheOther

end Picture

namespace Chart

/-- The changes that a chart has recorded since lead its picture from before to after. -/
def Replays (before after : Chart) : Prop :=
  ∃ changes, after.pending = before.pending ++ changes ∧
    before.picture.changeAll? changes = some after.picture

theorem Replays.refl (chart : Chart) : chart.Replays chart := ⟨[], (List.append_nil _).symm, rfl⟩

theorem Replays.trans {first second third : Chart} (h : first.Replays second)
    (h' : second.Replays third) : first.Replays third := by
  obtain ⟨changes, hpending, hpicture⟩ := h
  obtain ⟨later, hpending', hpicture'⟩ := h'
  refine ⟨changes ++ later, ?_, ?_⟩
  · rw [hpending', hpending, List.append_assoc]
  · rw [Picture.changeAll?_append, hpicture, Option.bind_some, hpicture']

theorem Advances.replays {before after : Chart} (h : before.Advances after)
    (hfit : before.series.CursorsFit) : before.Replays after := by
  obtain ⟨changes, hpending, hfollow⟩ := h.follows hfit
  exact ⟨changes, hpending, Picture.follow_eq_true_iff.mp hfollow⟩

theorem replays_call {chart : Chart} (hfit : chart.series.CursorsFit) {call : ChartCall}
    (hedits : call.edits = true) : chart.Replays (chart.call call).2 := by
  have houtcome := call_outcome call chart
  generalize chart.call call = done at houtcome ⊢
  cases houtcome with
  | refused | full => exact Replays.refl chart
  -- an attribute shows in no picture before a plot is added
  | configures => exact ⟨[], (List.append_nil _).symm, rfl⟩
  | works _ hadvances => exact hadvances.replays hfit
  | starts | addsPlot | settles => cases hedits

theorem replays_ofCalls (kind : ChartKind) (before : List ChartCall) {after : List ChartCall}
    (hedits : ∀ call ∈ after, call.edits = true) :
    (ofCalls kind before).Replays (ofCalls kind (before ++ after)) := by
  induction after using List.reverseRecOn with
  | nil =>
      rw [List.append_nil]
      exact Replays.refl _
  | append_singleton after call ih =>
      rw [List.forall_mem_append, List.forall_mem_singleton] at hedits
      rw [← List.append_assoc, ofCalls_concat]
      exact (ih hedits.1).trans (replays_call (cursorsFit_ofCalls kind _) hedits.2)

/-- After any calls on a chart that has no changes to hand out, and then any that edit its plots,
the changes it hands out fit the old picture one behind the other and make the new one of it. -/
theorem taken_changes_replay {kind : ChartKind} {before after : List ChartCall}
    (hnone : (ofCalls kind before).pending = []) (hedits : ∀ call ∈ after, call.edits = true) :
    ∃ changes, ((ofCalls kind (before ++ after)).call .takeChanges).1 = .taken changes ∧
      (ofCalls kind before).picture.changeAll? changes =
        some (ofCalls kind (before ++ after)).picture := by
  obtain ⟨changes, hpending, hpicture⟩ := replays_ofCalls kind before hedits
  rw [hnone, List.nil_append] at hpending
  exact ⟨changes, congrArg CallResult.taken hpending, hpicture⟩

/-- Values over time that are put in between, replaced and dropped, beside calls that are
refused. -/
theorem taken_changes_replay_aged :
    let before : List ChartCall :=
      [.setAttribute "max_age_seconds" "1", .addPlot, .addTimed 0 1000 .zero,
        .addTimed 0 3000 .zero, .takeChanges]
    let after : List ChartCall := [.addTimed 0 2500 (.infinite true), .addTimed 0 3000 .notANumber,
      .addTimed 0 9 .zero, .addValue 4000 0 .zero, .addTimed 7 0 .zero, .addPoint 0 ⟨.zero, .zero⟩,
      .setAttribute "tick_count" "many", .replot 0, .clear 7]
    (ofCalls .time before).pending = [] ∧ (∀ call ∈ after, call.edits = true) ∧
      ∃ changes, ((ofCalls .time (before ++ after)).call .takeChanges).1 = .taken changes ∧
        (ofCalls .time before).picture.changeAll? changes =
          some (ofCalls .time (before ++ after)).picture := by
  intro before after
  have hnone : (ofCalls .time before).pending = [] := rfl
  have hedits : ∀ call ∈ after, call.edits = true := by simp [after, ChartCall.edits]
  exact ⟨hnone, hedits, taken_changes_replay hnone hedits⟩

end Chart

end ChartBoard
