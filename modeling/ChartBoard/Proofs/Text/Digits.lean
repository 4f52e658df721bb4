import ChartBoard.Proofs.Text.Cutting
import ChartBoard.Proofs.Text.OneLine
import ChartBoard.Text.Whole
import Mathlib.Algebra.Group.Nat.Defs

/-!
Whole numbers and their digits. The digits of a number are read as that number, whatever it
is; a literal that has room for it is the number again. No digit is blank.
-/

namespace ChartBoard.Text

/-- A text of decimal digits and nothing else. -/
def AllDigits (text : List Char) : Prop := ∀ c ∈ text, c.isDigit = true

theorem allDigits_nil : AllDigits [] := by
  intro c hc
  cases hc

theorem allDigits_append {text later : List Char} :
    AllDigits (text ++ later) ↔ AllDigits text ∧ AllDigits later :=
  List.forall_mem_append

theorem allDigits_toDigits (n : Nat) : AllDigits (toDigits n) := fun _ hc =>
  Nat.isDigit_of_mem_toDigits (by decide) (by decide) hc

theorem allDigits_zeros (count : Nat) : AllDigits (List.replicate count '0') := by
  intro c hc
  rw [List.eq_of_mem_replicate hc]
  rfl

theorem not_blank_of_isDigit (c : Char) (h : c.isDigit = true) : isBlank c = false := by
  simp only [Char.isDigit, Bool.and_eq_true, decide_eq_true_eq, ge_iff_le,
    UInt32.le_iff_toNat_le] at h
  have hlow : 48 ≤ c.toNat := h.1
  have hhigh : c.toNat ≤ 57 := h.2
  simp only [isBlank, inRanges, blankRanges, List.any_cons, List.any_nil, Bool.or_eq_false_iff,
    Bool.and_eq_false_iff, decide_eq_false_iff_not, and_true]
  omega

theorem ne_of_isDigit {c d : Char} (h : c.isDigit = true) (hd : d.isDigit = false) : c ≠ d := by
  intro heq
  rw [heq, hd] at h
  cases h

theorem toLower_of_isDigit {c : Char} (h : c.isDigit = true) : c.toLower = c := by
  unfold Char.toLower
  simp only [Char.isDigit, Bool.and_eq_true, decide_eq_true_eq] at h
  rw [dif_neg]
  intro hupper
  exact absurd (UInt32.le_trans hupper.1 h.2) (by decide)

theorem beq_of_isDigit {d : Char} (hd : d.isDigit = false) (c : Char) (h : c.isDigit = true) :
    (c == d) = false :=
  beq_eq_false_iff_ne.mpr (ne_of_isDigit h hd)

/-- A text of decimal digits and some other characters. -/
def DigitsAnd (others text : List Char) : Prop := ∀ c ∈ text, c.isDigit = true ∨ c ∈ others

instance (others text : List Char) : Decidable (DigitsAnd others text) :=
  List.decidableBAll _ text

namespace DigitsAnd

variable {others text : List Char}

theorem mono {more : List Char} (h : DigitsAnd others text) (hmore : others ⊆ more) :
    DigitsAnd more text := fun c hc => (h c hc).imp id fun hother => hmore hother

theorem append {later : List Char} :
    DigitsAnd others (text ++ later) ↔ DigitsAnd others text ∧ DigitsAnd others later :=
  List.forall_mem_append

/-- Only digits and the other characters have to be looked at. -/
theorem free (h : DigitsAnd others text) {separates : Char → Bool}
    (hdigit : ∀ c, c.isDigit = true → separates c = false)
    (hother : Free separates others) : Free separates text :=
  fun c hc => (h c hc).elim (hdigit c) (hother c)

theorem not_mem (h : DigitsAnd others text) {c : Char} (hdigit : c.isDigit = false)
    (hother : c ∉ others) : c ∉ text := by
  intro hc
  rcases h c hc with hyes | hyes
  · rw [hdigit] at hyes
    cases hyes
  · exact hother hyes

theorem intercalate {separator : Char} (hseparator : separator ∈ others) {pieces : List (List Char)}
    (h : ∀ piece ∈ pieces, DigitsAnd others piece) :
    DigitsAnd others ([separator].intercalate pieces) := by
  induction pieces with
  | nil =>
      intro c hc
      cases hc
  | cons piece pieces ih =>
      have hpiece := h piece List.mem_cons_self
      cases pieces with
      | nil =>
          rw [List.intercalate_singleton]
          exact hpiece
      | cons second pieces =>
          rw [List.intercalate_cons_cons, append, append]
          refine ⟨⟨hpiece, ?_⟩, ih fun later hlater => h later (List.mem_cons_of_mem piece hlater)⟩
          intro c hc
          rw [List.mem_singleton.mp hc]
          exact .inr hseparator

end DigitsAnd

theorem AllDigits.digitsAnd {text : List Char} (h : AllDigits text) (others : List Char) :
    DigitsAnd others text := fun c hc => .inl (h c hc)

theorem AllDigits.free {text : List Char} (h : AllDigits text) {separates : Char → Bool}
    (hdigit : ∀ c, c.isDigit = true → separates c = false) : Free separates text :=
  fun c hc => hdigit c (h c hc)

theorem toDigits_ne_nil (n : Nat) : toDigits n ≠ [] := Nat.toDigits_ne_nil

theorem toList_toString (n : Nat) : (toString n).toList = toDigits n := by
  rw [Nat.toString_eq_ofList_toDigits, String.toList_ofList, toDigits]

/-- An integer is written in digits, behind a minus sign if it is negative. -/
theorem digitsAnd_toString_int (n : Int) : DigitsAnd ['-'] (toString n).toList := by
  cases n with
  | ofNat n =>
      have htext : (toString (Int.ofNat n)).toList = toDigits n := toList_toString n
      rw [htext]
      exact (allDigits_toDigits n).digitsAnd _
  | negSucc n =>
      have htext : toString (Int.negSucc n) = "-" ++ toString (n + 1) := rfl
      rw [htext, String.toList_append, toList_toString]
      exact List.forall_mem_cons.mpr ⟨.inr (by decide), (allDigits_toDigits _).digitsAnd _⟩

theorem ofDigits_eq (text : List Char) : ofDigits text = Nat.ofDigitChars 10 text 0 := by
  rw [Nat.ofDigitChars_eq_foldl]
  rfl

theorem ofDigits_toDigits (n : Nat) : ofDigits (toDigits n) = n := by
  rw [ofDigits_eq, toDigits, Nat.ofDigitChars_ten_toDigits]

theorem ofDigits_append (text later : List Char) :
    ofDigits (text ++ later) = 10 ^ later.length * ofDigits text + ofDigits later := by
  rw [ofDigits_eq, ofDigits_eq, ofDigits_eq, Nat.ofDigitChars_append,
    Nat.ofDigitChars_eq_ofDigitChars_zero]

theorem ofDigits_zeros (count : Nat) : ofDigits (List.replicate count '0') = 0 := by
  rw [ofDigits_eq, Nat.ofDigitChars_replicate_zero, Nat.mul_zero]

theorem digits?_of_allDigits {text : List Char} (hne : text ≠ []) (h : AllDigits text) :
    digits? text = some (ofDigits text) := by
  have hempty : text.isEmpty = false := List.isEmpty_eq_false_iff.mpr hne
  have hall : text.all Char.isDigit = true := List.all_eq_true.mpr h
  simp [digits?, hempty, hall]

/-- Digits that fit their type are read as the number that they write. -/
theorem readNat?_of_allDigits {bound : Nat} {text : List Char} (hne : text ≠ [])
    (h : AllDigits text) (hbound : ofDigits text < bound) :
    readNat? bound text = some (ofDigits text) := by
  unfold readNat?
  split
  · rename_i rest
    have hplus : '+'.isDigit = true := h '+' List.mem_cons_self
    exact absurd hplus (by decide)
  · rw [digits?_of_allDigits hne h, Option.filter_some, if_pos (by simpa using hbound)]

theorem readNat?_toDigits {bound n : Nat} (h : n < bound) :
    readNat? bound (toDigits n) = some n := by
  rw [readNat?_of_allDigits (toDigits_ne_nil n) (allDigits_toDigits n), ofDigits_toDigits]
  rw [ofDigits_toDigits]
  exact h

/-- A number has as many digits as it takes. -/
theorem length_toDigits_le_iff {n k : Nat} (hk : 0 < k) :
    (toDigits n).length ≤ k ↔ n < 10 ^ k :=
  Nat.length_toDigits_le_iff (by decide) hk

theorem lt_pow_length_toDigits (n : Nat) : n < 10 ^ (toDigits n).length :=
  (length_toDigits_le_iff (List.length_pos_iff.mpr (toDigits_ne_nil n))).mp (Nat.le_refl _)

theorem pow_length_toDigits_le {n : Nat} (h : n ≠ 0) : 10 ^ ((toDigits n).length - 1) ≤ n := by
  by_cases hone : (toDigits n).length - 1 = 0
  · rw [hone]
    exact Nat.pos_of_ne_zero h
  · have hmore : ¬(toDigits n).length ≤ (toDigits n).length - 1 := by omega
    rw [length_toDigits_le_iff (Nat.pos_of_ne_zero hone)] at hmore
    exact Nat.le_of_not_lt hmore

end ChartBoard.Text
