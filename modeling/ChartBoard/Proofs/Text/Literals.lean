import ChartBoard.Proofs.Text.Digits
import Mathlib.Data.List.Forall2

/-!
Literals of whole numbers, told without a reader: decimal digits behind an optional plus sign,
with the value that they have in base ten. Such a literal is read exactly if its value is within
the bound (`readNat?_eq_some_iff`). A list of pieces is read exactly if each of them is, and what
each piece makes true of its value holds of all the values.
-/

namespace ChartBoard.Text

/-- One or more decimal digits and the number that they write. -/
inductive DigitText : List Char → Nat → Prop
  | intro {text : List Char} (hne : text ≠ []) (h : AllDigits text) :
      DigitText text (Nat.ofDigitChars 10 text 0)

/-- A whole number with an optional plus sign. -/
inductive WholeText : List Char → Nat → Prop
  | bare {text : List Char} {n : Nat} (h : DigitText text n) : WholeText text n
  | plus {text : List Char} {n : Nat} (h : DigitText text n) : WholeText ('+' :: text) n

theorem digits?_eq_some_iff {text : List Char} {n : Nat} :
    digits? text = some n ↔ DigitText text n := by
  constructor
  · intro h
    unfold digits? at h
    split at h
    · rename_i htext
      simp only [Bool.and_eq_true, Bool.not_eq_true', List.isEmpty_eq_false_iff,
        List.all_eq_true] at htext
      rw [← Option.some.inj h, ofDigits_eq]
      exact .intro htext.1 htext.2
    · cases h
  · rintro ⟨hne, hall⟩
    rw [digits?_of_allDigits hne hall, ofDigits_eq]

/-- Digits do not begin with a sign. -/
theorem DigitText.head_isDigit {c : Char} {text : List Char} {n : Nat}
    (h : DigitText (c :: text) n) :
    c.isDigit = true := by
  cases h with
  | intro _ hall => exact hall c List.mem_cons_self

theorem readNat?_eq_some_iff {bound : Nat} {text : List Char} {n : Nat} :
    readNat? bound text = some n ↔ WholeText text n ∧ n < bound := by
  unfold readNat?
  simp only [Option.filter_eq_some_iff, decide_eq_true_eq]
  refine and_congr_left fun _ => ?_
  constructor
  · intro h
    split at h
    · exact .plus (digits?_eq_some_iff.mp h)
    · exact .bare (digits?_eq_some_iff.mp h)
  · rintro (hbare | hplus)
    · split
      · exact absurd hbare.head_isDigit (by decide)
      · exact digits?_eq_some_iff.mpr hbare
    · exact digits?_eq_some_iff.mpr hplus

theorem WholeText.unique {text : List Char} {n m : Nat} (hn : WholeText text n)
    (hm : WholeText text m) : n = m := by
  have hread : readNat? (max n m + 1) text = some n :=
    readNat?_eq_some_iff.mpr ⟨hn, Nat.lt_succ_of_le (Nat.le_max_left n m)⟩
  have hread' : readNat? (max n m + 1) text = some m :=
    readNat?_eq_some_iff.mpr ⟨hm, Nat.lt_succ_of_le (Nat.le_max_right n m)⟩
  exact Option.some.inj (hread.symm.trans hread')

/-- A whole number that may have a minus sign in place of a plus sign. -/
inductive IntText : List Char → Int → Prop
  | whole {text : List Char} {n : Nat} (h : WholeText text n) : IntText text n
  | negative {text : List Char} {n : Nat} (h : DigitText text n) : IntText ('-' :: text) (-n)

/-- A whole number does not begin with a minus sign. -/
theorem WholeText.ne_minus {text rest : List Char} {n : Nat} (h : WholeText text n) :
    text ≠ '-' :: rest := by
  rintro rfl
  cases h with
  | bare hdigits => exact absurd hdigits.head_isDigit (by decide)

theorem readInt?_eq_some_iff {bound : Nat} (hpositive : 0 < bound) {text : List Char} {n : Int} :
    readInt? bound text = some n ↔ IntText text n ∧ -bound ≤ n ∧ n < bound := by
  have hwhole {n : Nat} : readNat? bound text = some n ↔
      WholeText text n ∧ -(bound : Int) ≤ n ∧ (n : Int) < bound := by
    rw [readNat?_eq_some_iff]
    exact and_congr_right fun _ => by omega
  unfold readInt?
  split
  · rename_i rest
    simp only [Option.map_eq_some_iff, Option.filter_eq_some_iff, digits?_eq_some_iff,
      decide_eq_true_eq]
    constructor
    · rintro ⟨m, ⟨hdigits, hbound⟩, rfl⟩
      exact ⟨.negative hdigits, by omega, by omega⟩
    · rintro ⟨hwhole | hdigits, hbound⟩
      · exact absurd rfl hwhole.ne_minus
      · exact ⟨_, ⟨hdigits, by omega⟩, rfl⟩
  · rename_i hsign
    simp only [Option.map_eq_some_iff]
    constructor
    · rintro ⟨m, hm, rfl⟩
      exact ⟨.whole (hwhole.mp hm).1, (hwhole.mp hm).2⟩
    · rintro ⟨htext | hdigits, hbound⟩
      · exact ⟨_, hwhole.mpr ⟨htext, hbound⟩, rfl⟩
      · exact absurd rfl (hsign _)

theorem digitText_toDigits (n : Nat) : DigitText (toDigits n) n := by
  rw [← digits?_eq_some_iff, digits?_of_allDigits (toDigits_ne_nil n) (allDigits_toDigits n),
    ofDigits_toDigits]

/-- An integer is written as its digits, behind a minus sign if it is negative. -/
theorem toList_toString_int (n : Int) :
    (toString n).toList = if 0 ≤ n then toDigits n.toNat else '-' :: toDigits (-n).toNat := by
  rw [Int.toString_eq_repr, Int.repr_eq_if]
  split
  · exact toList_toString n.toNat
  · rw [String.toList_append]
    exact congrArg (List.cons '-') (toList_toString (-n).toNat)

theorem intText_toString (n : Int) : IntText (toString n).toList n := by
  rw [toList_toString_int]
  split
  · have hn : IntText (toDigits n.toNat) n.toNat := .whole (.bare (digitText_toDigits _))
    rwa [Int.toNat_of_nonneg ‹0 ≤ n›] at hn
  · have hn : IntText ('-' :: toDigits (-n).toNat) (-((-n).toNat : Int)) :=
      .negative (digitText_toDigits _)
    rwa [Int.toNat_of_nonneg (by omega), Int.neg_neg] at hn

section Outcomes

variable {ε α β : Type}

/-- Two steps succeed exactly if the first does and the second does with its outcome. -/
theorem bind_eq_ok_iff {first : Except ε α} {next : α → Except ε β} {y : β} :
    (first >>= next) = .ok y ↔ ∃ x, first = .ok x ∧ next x = .ok y := by
  cases first with
  | error fault =>
      constructor
      · intro h
        cases h
      · rintro ⟨x, h, -⟩
        cases h
  | ok x =>
      constructor
      · exact fun h => ⟨x, rfl, h⟩
      · rintro ⟨x, h, hnext⟩
        cases h
        exact hnext

theorem pure_eq_ok_iff {x y : α} : (pure x : Except ε α) = .ok y ↔ y = x :=
  ⟨fun h => (Except.ok.inj h).symm, fun h => h ▸ rfl⟩

theorem mapM_eq_ok_iff {read : α → Except ε β} {pieces : List α} {values : List β} :
    pieces.mapM read = .ok values ↔
      List.Forall₂ (fun piece value => read piece = .ok value) pieces values := by
  induction pieces generalizing values with
  | nil => rw [List.mapM_nil, pure_eq_ok_iff, List.forall₂_nil_left_iff]
  | cons piece pieces ih =>
      simp only [List.mapM_cons, bind_eq_ok_iff, pure_eq_ok_iff, ih, List.forall₂_cons_left_iff]
      constructor
      · rintro ⟨value, hpiece, later, hlater, hvalues⟩
        exact ⟨value, later, hpiece, hlater, hvalues⟩
      · rintro ⟨value, later, hpiece, hlater, hvalues⟩
        exact ⟨value, hpiece, later, hlater, hvalues⟩

/-- What is read from each of some words holds of all that is read. -/
theorem forall_mem_of_forall₂ {R : α → β → Prop} {words : List α} {values : List β}
    (h : List.Forall₂ R words values) {p : β → Prop} (hp : ∀ word value, R word value → p value) :
    ∀ value ∈ values, p value := by
  have hboth : List.Forall₂ (fun value word => p value ∧ R word value) values words :=
    (h.imp fun word value hread => ⟨hp word value hread, hread⟩).flip
  exact ((List.forall₂_and_left _ _).mp hboth).1

end Outcomes

end ChartBoard.Text
