import ChartBoard.Text.Whole
import Mathlib.Data.List.Basic

/-!
Texts on one line. Cutting a text at blanks and separators, and trimming it, makes no
character up; so the parts of a text on one line are on one line, and a number is always
written on one.
-/

namespace ChartBoard.Text

/-- A text without an end of line in it. -/
def OneLine (text : List Char) : Prop := '\n' ∉ text

instance (text : List Char) : Decidable (OneLine text) :=
  inferInstanceAs (Decidable ('\n' ∉ text))

theorem OneLine.of_subset {text part : List Char} (h : OneLine text) (hpart : part ⊆ text) :
    OneLine part := fun hc => h (hpart hc)

/-- The kernel reads a literal off as its characters, which is faster than to decode it. -/
theorem oneLine_ofList {text : List Char} (h : OneLine text) :
    OneLine (String.ofList text).toList := by
  rw [String.toList_ofList]
  exact h

theorem oneLine_append {text later : List Char} :
    OneLine (text ++ later) ↔ OneLine text ∧ OneLine later := by
  simp only [OneLine, List.mem_append, not_or]

theorem trim_subset (text : List Char) : trim text ⊆ text := by
  intro c hc
  rw [trim, trimEnd, List.mem_reverse] at hc
  have hstart : c ∈ trimStart text := List.mem_reverse.mp (List.dropWhile_sublist _ |>.subset hc)
  exact List.dropWhile_sublist _ |>.subset hstart

theorem split_subset (separates : Char → Bool) {text piece : List Char}
    (h : piece ∈ split separates text) : piece ⊆ text := by
  induction text generalizing piece with
  | nil =>
      rw [split, List.mem_singleton] at h
      rw [h]
      exact List.nil_subset []
  | cons c text ih =>
      unfold split at h
      split at h
      · rcases List.mem_cons.mp h with rfl | hlater
        · exact List.nil_subset _
        · exact List.subset_cons_of_subset c (ih hlater)
      · split at h
        · rw [List.mem_singleton.mp h]
          exact List.cons_subset_cons c (List.nil_subset text)
        · rename_i first pieces hsplit
          rcases List.mem_cons.mp h with rfl | hlater
          · exact List.cons_subset_cons c (ih (by rw [hsplit]; exact List.mem_cons_self))
          · exact List.subset_cons_of_subset c
              (ih (by rw [hsplit]; exact List.mem_cons_of_mem first hlater))

theorem tokens_subset (separates : Char → Bool) {text piece : List Char}
    (h : piece ∈ tokens separates text) : piece ⊆ text :=
  split_subset separates (List.mem_filter.mp h).1

theorem splitFirst?_subset {separates : Char → Bool} {text before after : List Char}
    (h : splitFirst? separates text = some (before, after)) : before ⊆ text ∧ after ⊆ text := by
  obtain ⟨c, -, rfl, -⟩ := splitFirst?_eq_some h
  exact ⟨List.subset_append_left _ _,
    List.subset_append_of_subset_right _ (List.subset_cons_self c after)⟩

theorem isPrefixOf?_subset {opening text rest : List Char}
    (h : opening.isPrefixOf? text = some rest) : rest ⊆ text := by
  rw [← List.append_eq_of_isPrefixOf?_eq_some h]
  exact List.subset_append_right opening rest

theorem oneLine_toString (n : Nat) : OneLine (toString n).toList := by
  intro hc
  have hdigits : (toString n).toList = Nat.toDigits 10 n := by
    simp [toString, Nat.repr]
  rw [hdigits] at hc
  have hdigit := Nat.isDigit_of_mem_toDigits (by decide) (by decide) hc
  simp at hdigit

/-- Whatever is complained of, the complaint is a text on one line. -/
def ComplainsInLine {ε α : Type} (message : ε → String) (outcome : Except ε α) : Prop :=
  ∀ fault, outcome = .error fault → OneLine (message fault).toList

section Complaints

variable {ε α β : Type} {message : ε → String}

theorem complainsInLine_ok (x : α) : ComplainsInLine message (.ok x) := by
  intro fault h
  cases h

theorem complainsInLine_error {fault : ε} (h : OneLine (message fault).toList) :
    ComplainsInLine message (.error fault : Except ε α) := by
  intro other hother
  cases hother
  exact h

theorem ComplainsInLine.bind {outcome : Except ε α} {next : α → Except ε β}
    (h : ComplainsInLine message outcome)
    (hnext : ∀ x, outcome = .ok x → ComplainsInLine message (next x)) :
    ComplainsInLine message (outcome >>= next) := by
  cases outcome with
  | error fault =>
      intro other hother
      cases hother
      exact h fault rfl
  | ok x => exact hnext x rfl

/-- What holds of all results of a last step holds of the results of the whole. -/
theorem yields_bind {outcome : Except ε α} {next : α → Except ε β} {P : β → Prop}
    (h : ∀ x y, next x = .ok y → P y) : ∀ y, (outcome >>= next) = .ok y → P y := by
  intro y hy
  cases outcome with
  | error fault => cases hy
  | ok x => exact h x y hy

theorem ComplainsInLine.mapM {f : α → Except ε β} {xs : List α}
    (h : ∀ x ∈ xs, ComplainsInLine message (f x)) : ComplainsInLine message (xs.mapM f) := by
  induction xs with
  | nil => exact complainsInLine_ok []
  | cons x xs ih =>
      rw [List.mapM_cons]
      refine (h x List.mem_cons_self).bind fun y _ => ?_
      refine (ih fun z hz => h z (List.mem_cons_of_mem x hz)).bind fun ys _ => ?_
      exact complainsInLine_ok (y :: ys)

end Complaints

end ChartBoard.Text
