import ChartBoard.Proofs.Chart.Following
import Mathlib.Data.List.DropRight
import Mathlib.Data.List.Induction

/-!
Passes over a trace that is written at a cursor. What is done to the trace since it was cleared is
cut at each rewind into passes (`PassStep.passes`), and each pass is written over the ones before
it. So the points are as many as the longest pass has, and each comes from the latest pass that
reaches it (`DrawnOver`). The cursor stands behind the pass that is being written
(`CursorTrace.Follows`), and this is what every step keeps (`CursorTrace.follows_run`).
-/

namespace ChartBoard

/-- What is done to a trace that is written at a cursor. -/
inductive PassStep (α : Type) where
  | write (value : α)
  | rewind
  | clear

namespace PassStep

variable {α : Type}

def isClear : PassStep α → Bool
  | clear => true
  | _ => false

def isRewind : PassStep α → Bool
  | rewind => true
  | _ => false

def written? : PassStep α → Option α
  | write value => some value
  | _ => none

/-- An element that does not cut lengthens the last piece. -/
theorem splitOnP_concat {α : Type} {p : α → Bool} (xs : List α) {x : α} (hx : p x = false) :
    ∃ front last, xs.splitOnP p = front ++ [last] ∧
      (xs ++ [x]).splitOnP p = front ++ [last ++ [x]] := by
  induction xs with
  | nil => exact ⟨[], [], rfl, by simp [List.splitOnP_cons_eq_if_modifyHead, hx]⟩
  | cons y ys ih =>
      obtain ⟨front, last, hys, hconcat⟩ := ih
      rw [List.cons_append, List.splitOnP_cons_eq_if_modifyHead,
        List.splitOnP_cons_eq_if_modifyHead, hys, hconcat]
      by_cases hy : p y = true
      · exact ⟨[] :: front, last, by simp [hy], by simp [hy]⟩
      · cases front with
        | nil => exact ⟨[], y :: last, by simp [hy], by simp [hy]⟩
        | cons first front => exact ⟨(y :: first) :: front, last, by simp [hy], by simp [hy]⟩

/-- The passes since the trace was last cleared, the first one first: a rewind ends one and begins
the next. -/
def passes (steps : List (PassStep α)) : List (List α) :=
  ((steps.rtakeWhile fun step => !step.isClear).splitOnP isRewind).map (List.filterMap written?)

theorem passes_clear (steps : List (PassStep α)) : passes (steps ++ [clear]) = [[]] := by
  rw [passes, List.rtakeWhile_concat]
  rfl

theorem passes_rewind (steps : List (PassStep α)) :
    passes (steps ++ [rewind]) = passes steps ++ [[]] := by
  rw [passes, List.rtakeWhile_concat_pos _ _ _ rfl, List.splitOnP_append_cons _ _ rfl,
    List.map_append]
  rfl

/-- A value that is written lengthens the last pass. -/
theorem passes_write (steps : List (PassStep α)) (value : α) :
    ∃ front last, passes steps = front ++ [last] ∧
      passes (steps ++ [write value]) = front ++ [last ++ [value]] := by
  obtain ⟨front, last, hold, hnew⟩ :=
    splitOnP_concat (p := isRewind) (steps.rtakeWhile fun step => !step.isClear)
      (x := write value) rfl
  refine ⟨front.map (List.filterMap written?), last.filterMap written?, ?_, ?_⟩
  · rw [passes, hold, List.map_append]
    rfl
  · rw [passes, List.rtakeWhile_concat_pos _ _ _ rfl, hnew, List.map_append, List.map_singleton,
      List.filterMap_append]
    rfl

end PassStep

/-- Points are what is seen of passes that are drawn over each other, if `point` says what a value
becomes at its place in a pass. -/
structure DrawnOver {α : Type} (point : Nat → α → Point) (passes : List (List α))
    (points : List Point) : Prop where
  /-- There are as many points as the longest pass has. -/
  within : ∀ pass ∈ passes, pass.length ≤ points.length
  reached : ∃ pass ∈ passes, pass.length = points.length
  /-- Each point comes from the latest pass that has one at its place. -/
  latest : ∀ n < points.length, ∃ before pass after value, passes = before ++ pass :: after ∧
    (∀ later ∈ after, later.length ≤ n) ∧ pass[n]? = some value ∧ points[n]? = some (point n value)

namespace CursorTrace

theorem length_write (point : Point) {trace : CursorTrace} (h : trace.Fits) :
    (trace.write point).points.length = max trace.points.length (trace.cursor + 1) := by
  unfold Fits at h
  unfold write
  dsimp only
  split
  · rw [List.length_set]
    omega
  · rw [List.length_append, List.length_singleton]
    omega

theorem getElem?_write (point : Point) {trace : CursorTrace} (h : trace.Fits) (n : Nat) :
    (trace.write point).points[n]? = if n = trace.cursor then some point else trace.points[n]? := by
  unfold Fits at h
  unfold write
  dsimp only
  split
  · rename_i hlt
    rw [List.getElem?_set]
    by_cases hn : n = trace.cursor
    · simp [hn, hlt]
    · simp [hn, Ne.symm hn]
  · have hend : trace.cursor = trace.points.length := by omega
    rw [List.getElem?_append]
    by_cases hn : n = trace.cursor
    · simp [hn, hend]
    · by_cases hlt : n < trace.points.length
      · simp [hn, hlt]
      · have hbeyond : n - trace.points.length ≠ 0 := by omega
        simp [hn, hlt, hbeyond]

variable {α : Type} {point : Nat → α → Point}

/-- A trace shows passes that are drawn over each other, and its cursor stands behind the last. -/
structure Follows (point : Nat → α → Point) (passes : List (List α)) (trace : CursorTrace) :
    Prop where
  drawn : DrawnOver point passes trace.points
  cursor : ∃ front last, passes = front ++ [last] ∧ trace.cursor = last.length

theorem follows_empty : Follows point [[]] {} where
  drawn := ⟨by simp, by simp, fun n hn => absurd hn (Nat.not_lt_zero n)⟩
  cursor := ⟨[], [], rfl, rfl⟩

theorem Follows.rewind {passes : List (List α)} {trace : CursorTrace}
    (h : trace.Follows point passes) : trace.rewind.Follows point (passes ++ [[]]) where
  drawn := by
    obtain ⟨pass, hpass, hlength⟩ := h.drawn.reached
    refine ⟨?_, ⟨pass, List.mem_append_left _ hpass, hlength⟩, fun n hn => ?_⟩
    · rw [List.forall_mem_append, List.forall_mem_singleton]
      exact ⟨h.drawn.within, Nat.zero_le _⟩
    · obtain ⟨before, pass, after, value, rfl, hafter, hvalue⟩ := h.drawn.latest n hn
      refine ⟨before, pass, after ++ [[]], value, by simp, ?_, hvalue⟩
      rw [List.forall_mem_append, List.forall_mem_singleton]
      exact ⟨hafter, Nat.zero_le n⟩
  cursor := ⟨passes, [], rfl, rfl⟩

section Write

variable {front : List (List α)} {last : List α} {trace : CursorTrace}
  (h : trace.Follows point (front ++ [last]))

include h

theorem Follows.cursor_eq : trace.cursor = last.length := by
  obtain ⟨front', last', hpasses, hcursor⟩ := h.cursor
  obtain ⟨-, hlast⟩ := List.append_inj' hpasses rfl
  rw [List.singleton_inj.mp hlast]
  exact hcursor

theorem Follows.fits : trace.Fits := h.cursor_eq.trans_le (h.drawn.within last (by simp))

/-- A value written under the cursor leaves the other points where they come from. -/
theorem Follows.latest_write (value : α) {n : Nat} (hn : n < trace.points.length)
    (hother : n ≠ trace.cursor) : ∃ before pass after earlier,
      front ++ [last ++ [value]] = before ++ pass :: after ∧ (∀ later ∈ after, later.length ≤ n) ∧
        pass[n]? = some earlier ∧ trace.points[n]? = some (point n earlier) := by
  have hcursor := h.cursor_eq
  obtain ⟨before, pass, after, earlier, hold, hafter, hvalue, hpoint⟩ := h.drawn.latest n hn
  rcases List.eq_nil_or_concat after with rfl | ⟨middle, final, rfl⟩
  · -- the point comes from the pass that is being written
    obtain ⟨rfl, hlast⟩ := List.append_inj' hold rfl
    obtain rfl := List.singleton_inj.mp hlast
    obtain ⟨hlt, -⟩ := List.getElem?_eq_some_iff.mp hvalue
    refine ⟨front, last ++ [value], [], earlier, rfl, by simp, ?_, hpoint⟩
    rw [List.getElem?_append_left hlt]
    exact hvalue
  · -- it comes from an earlier one, and the last still ends before it
    rw [List.concat_eq_append, ← List.cons_append, ← List.append_assoc] at hold
    obtain ⟨rfl, hlast⟩ := List.append_inj' hold rfl
    obtain rfl := List.singleton_inj.mp hlast
    rw [List.concat_eq_append, List.forall_mem_append, List.forall_mem_singleton] at hafter
    refine ⟨before, pass, middle ++ [last ++ [value]], earlier, by simp, ?_, hvalue, hpoint⟩
    rw [List.forall_mem_append, List.forall_mem_singleton, List.length_append,
      List.length_singleton]
    exact ⟨hafter.1, by omega⟩

/-- The longest pass is the one it was, or the last if it has grown beyond the points. -/
theorem Follows.reached_write (value : α) : ∃ pass ∈ front ++ [last ++ [value]],
    pass.length = max trace.points.length (trace.cursor + 1) := by
  have hcursor := h.cursor_eq
  have hfits : trace.cursor ≤ trace.points.length := h.fits
  by_cases hend : trace.cursor = trace.points.length
  · refine ⟨last ++ [value], by simp, ?_⟩
    rw [List.length_append, List.length_singleton]
    omega
  · obtain ⟨pass, hpass, hlongest⟩ := h.drawn.reached
    rcases List.mem_append.mp hpass with hfront | hlast
    · exact ⟨pass, List.mem_append_left _ hfront, by omega⟩
    · obtain rfl := List.mem_singleton.mp hlast
      exact absurd (hcursor.trans hlongest) hend

theorem Follows.write (value : α) :
    (trace.write (point trace.cursor value)).Follows point (front ++ [last ++ [value]]) := by
  have hcursor := h.cursor_eq
  have hfits : trace.cursor ≤ trace.points.length := h.fits
  have hlength := length_write (point trace.cursor value) h.fits
  refine ⟨⟨fun pass hpass => ?_, ?_, fun n hn => ?_⟩, front, last ++ [value], rfl, ?_⟩
  · rw [hlength]
    rcases List.mem_append.mp hpass with hfront | hlast
    · have := h.drawn.within pass (List.mem_append_left _ hfront)
      omega
    · rw [List.mem_singleton.mp hlast, List.length_append, List.length_singleton]
      omega
  · rw [hlength]
    exact h.reached_write value
  · rw [hlength] at hn
    rw [getElem?_write _ h.fits]
    by_cases hhere : n = trace.cursor
    · subst hhere
      exact ⟨front, last ++ [value], [], value, rfl, by simp, by simp [hcursor], by simp⟩
    · rw [if_neg hhere]
      exact h.latest_write value (by omega) hhere
  · rw [List.length_append, List.length_singleton, ← hcursor]
    rfl

end Write

end CursorTrace

namespace PassStep

variable {α : Type} (point : Nat → α → Point)

/-- What a step makes of a trace, if `point` says what a value becomes under the cursor. -/
def run (trace : CursorTrace) : PassStep α → CursorTrace
  | write value => trace.write (point trace.cursor value)
  | rewind => trace.rewind
  | clear => {}

end PassStep

/-- Steps from an empty trace on draw their passes over each other. -/
theorem CursorTrace.follows_run {α : Type} (point : Nat → α → Point) (steps : List (PassStep α)) :
    Follows point (PassStep.passes steps) (steps.foldl (PassStep.run point) {}) := by
  induction steps using List.reverseRecOn with
  | nil => exact follows_empty
  | append_singleton steps step ih =>
      rw [List.foldl_append]
      cases step with
      | write value =>
          obtain ⟨front, last, hold, hnew⟩ := PassStep.passes_write steps value
          rw [hold] at ih
          rw [hnew]
          exact ih.write value
      | rewind =>
          rw [PassStep.passes_rewind]
          exact ih.rewind
      | clear =>
          rw [PassStep.passes_clear]
          exact follows_empty

end ChartBoard
