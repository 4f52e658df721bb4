import ChartBoard.Proofs.Board.Slots
import ChartBoard.Proofs.Chart.Replay

/-!
Lists of changes with a misfit among them. A single change that does not fit leaves its picture as
it was. A list of changes is made one after the other where the picture is shown: if one does not
fit, those before it remain made, and nothing is drawn (`Board.apply_stops_at_misfit`). So a slot
may show something else after a false answer (`Board.point_stays_before_misfit`), and a session that
gets this answer shows its whole picture again.
-/

namespace ChartBoard

namespace Picture

variable {change : Change} {changes : List Change} {picture after : Picture}

/-- The changes before the first misfit make the one picture of the other. -/
def StopsAt (changes : List Change) (before after : Picture) : Prop :=
  ∃ made misfit later, changes = made ++ misfit :: later ∧ before.changeAll? made = some after ∧
    after.change? misfit = none

theorem StopsAt.cons {middle : Picture} (hchange : picture.change? change = some middle)
    (h : StopsAt changes middle after) : StopsAt (change :: changes) picture after := by
  obtain ⟨made, misfit, later, rfl, hmade, hmisfit⟩ := h
  exact ⟨change :: made, misfit, later, rfl, (changeAll?_cons_of_fits hchange).trans hmade, hmisfit⟩

theorem stopsAt_of_follow (h : picture.follow changes = (after, false)) :
    StopsAt changes picture after := by
  induction changes generalizing picture with
  | nil => cases (Prod.mk.inj h).2
  | cons change changes ih =>
      cases hchange : picture.change? change with
      | none =>
          rw [follow_cons_of_misfit hchange] at h
          obtain rfl := (Prod.mk.inj h).1
          exact ⟨[], change, changes, rfl, rfl, hchange⟩
      | some middle =>
          rw [follow_cons_of_fits hchange] at h
          exact (ih h).cons hchange

/-- A single change is made or leaves the picture as it was. -/
theorem StopsAt.eq_of_single (h : StopsAt [change] picture after) : after = picture := by
  obtain ⟨made, misfit, later, hsplit, hmade, -⟩ := h
  obtain rfl : made = [] := by
    cases made with
    | nil => rfl
    | cons first made => simp at hsplit
  exact (Option.some.inj hmade).symm

end Picture

namespace Board

/-- What comes of changes that are sent to a slot under a generation. -/
inductive Applied (slot generation : Nat) (changes : List Change) (board : Board) :
    Answered Bool → Prop where
  | turnedAway
      (hforeign : ∀ shown, board.shown? slot = some shown → shown.generation ≠ generation) :
      Applied slot generation changes board ⟨false, board, []⟩
  | made {before after : Picture} (hshown : board.shown? slot = some ⟨generation, before⟩)
      (hmade : before.changeAll? changes = some after) :
      Applied slot generation changes board
        ⟨true, board.showing slot ⟨generation, after⟩, [.draw slot after]⟩
  | stopped {before after : Picture} (hshown : board.shown? slot = some ⟨generation, before⟩)
      (hstops : Picture.StopsAt changes before after) :
      Applied slot generation changes board ⟨false, board.showing slot ⟨generation, after⟩, []⟩

theorem applied_apply (slot generation : Nat) (changes : List Change) (board : Board) :
    Applied slot generation changes board (board.apply slot generation changes) := by
  obtain ⟨before, after, fits, hshown, hfollow, happly⟩ | ⟨hforeign, happly⟩ :=
    apply_cases slot generation changes board
  · rw [happly]
    cases fits with
    | true => exact .made hshown (Picture.follow_eq_true_iff.mp hfollow)
    | false => exact .stopped hshown (Picture.stopsAt_of_follow hfollow)
  · rw [happly]
    exact .turnedAway hforeign

/-- Changes touch no slot but the one that is named. If the answer is true, the slot shows the old
picture with all changes made, and this is drawn. If it is false, nothing is drawn; then the slot
did not hold the generation, and nothing has changed, or it shows the old picture with the changes
before the first misfit made. A single change that is answered so has changed nothing. -/
theorem apply_stops_at_misfit (slot generation : Nat) (changes : List Change) (board : Board) :
    let answer := board.apply slot generation changes
    (answer.value = true → ∃ before after, board.shown? slot = some ⟨generation, before⟩ ∧
      before.changeAll? changes = some after ∧
      answer.board = board.showing slot ⟨generation, after⟩ ∧ answer.events = [.draw slot after]) ∧
    (answer.value = false → answer.events = [] ∧
      ((∀ shown, board.shown? slot = some shown → shown.generation ≠ generation) ∧
          answer.board = board ∨
        ∃ before after, board.shown? slot = some ⟨generation, before⟩ ∧
          Picture.StopsAt changes before after ∧
          answer.board = board.showing slot ⟨generation, after⟩)) ∧
    (∀ change, changes = [change] → answer.value = false → answer.board = board) ∧
    ∀ other, other ≠ slot → answer.board.shown? other = board.shown? other := by
  intro answer
  refine ⟨?_, ?_, ?_, fun other hother => shown?_apply_of_ne slot generation changes board hother⟩
  all_goals
    have happlied : Applied slot generation changes board answer :=
      applied_apply slot generation changes board
    generalize answer = answered at happlied
  · intro htrue
    cases happlied with
    | turnedAway | stopped => cases htrue
    | made hshown hmade => exact ⟨_, _, hshown, hmade, rfl, rfl⟩
  · intro hfalse
    cases happlied with
    | turnedAway hforeign => exact ⟨rfl, .inl ⟨hforeign, rfl⟩⟩
    | made => cases hfalse
    | stopped hshown hstops => exact ⟨rfl, .inr ⟨_, _, hshown, hstops, rfl⟩⟩
  · rintro change rfl hfalse
    cases happlied with
    | turnedAway => rfl
    | made => cases hfalse
    | stopped hshown hstops =>
        rw [hstops.eq_of_single]
        exact showing_eq_self hshown

/-- A board that shows a chart with one empty plot, and two points of which the second would leave a
gap before it. -/
theorem point_stays_before_misfit :
    let picture := (Chart.ofCalls .xy [.addPlot]).picture
    let board := ((create 1 {} none).attach 0 picture).board
    let answer := board.apply 0 1 [⟨0, .setPoint 0 ⟨.zero, .zero⟩⟩, ⟨0, .setPoint 5 ⟨.zero, .zero⟩⟩]
    board.picture? 0 = some picture ∧ answer.value = false ∧
      answer.board.picture? 0 ≠ some picture := by
  decide +kernel

end Board

end ChartBoard
