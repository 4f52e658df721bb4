import ChartBoard.Proofs.Number.ReadBack

/-!
How long the text of a number can be. The decimals that a magnitude is written with have a bounded
number of digits, and neither of the two ends of their digits is far from the point
(`Decimal.Bounded`). Dropping zeros keeps that, so the text of every finite number has at most 1621
characters (`Binary64.length_text_le`).
-/

namespace ChartBoard

open Text

/-- The digits of a decimal are not too many, and they begin and end not too far from the point. -/
structure Decimal.Bounded (d : Decimal) : Prop where
  digits : (toDigits d.coefficient).length ≤ 1383
  ending : -1074 ≤ d.exponent
  beginning : (toDigits d.coefficient).length + d.exponent ≤ 1620

namespace Text

theorem length_toDigits_pos (n : Nat) : 0 < (toDigits n).length :=
  List.length_pos_iff.mpr (toDigits_ne_nil n)

theorem length_toDigits_le_of_lt {n k : Nat} (h : n < 10 ^ k) (hk : 0 < k) :
    (toDigits n).length ≤ k :=
  (length_toDigits_le_iff hk).mpr h

/-- A zero at the end of a number is one of its digits. -/
theorem length_toDigits_div_ten {n : Nat} (h : n ≠ 0) (hzero : n % 10 = 0) :
    (toDigits (n / 10)).length + 1 ≤ (toDigits n).length := by
  have hlower := pow_length_toDigits_le h
  by_cases hone : (toDigits n).length = 1
  · have hsmall := lt_pow_length_toDigits n
    rw [hone] at hsmall
    omega
  · have hpos := length_toDigits_pos n
    have hbelow : n / 10 < 10 ^ ((toDigits n).length - 1) := by
      have hupper := lt_pow_length_toDigits n
      rw [show (toDigits n).length = (toDigits n).length - 1 + 1 by omega, Nat.pow_succ] at hupper
      exact Nat.div_lt_of_lt_mul (by omega)
    have hshort := length_toDigits_le_of_lt hbelow (by omega)
    omega

end Text

/-- The product of two bounded numbers is bounded. -/
theorem mul_lt_of_bounded {first second most many bound : Nat} (hfirst : first < most)
    (hsecond : second ≤ many) (hmany : 0 < many) (hbound : most * many ≤ bound) :
    first * second < bound :=
  Nat.lt_of_lt_of_le (Nat.mul_lt_mul_of_lt_of_le hfirst hsecond hmany) hbound

namespace Binary64

/-- Every finite magnitude is less than `2 ^ 1024`. -/
theorem units_lt {magnitude : Nat} (h : magnitude < finiteCount) : units magnitude < 2 ^ 2098 := by
  have hcount : finiteCount = 2047 * 2 ^ 52 := Nat.shiftLeft_eq _ _
  rw [hcount] at h
  by_cases hsmall : magnitude < 2 ^ 52
  · rw [units_of_lt hsmall]
    exact Nat.lt_trans hsmall (by decide +kernel)
  · obtain ⟨bits, spacing, hunits, hleast, hmost, hmagnitude⟩ :=
      units_of_le (Nat.le_of_not_lt hsmall)
    have hspacing : spacing ≤ 2045 := by omega
    rw [hunits]
    exact mul_lt_of_bounded hmost (Nat.pow_le_pow_right (by decide) hspacing) (Nat.two_pow_pos 2045)
      (by decide +kernel)

end Binary64

namespace Shortest

section Magnitude

variable {magnitude : Nat} (h : magnitude < Binary64.finiteCount)

include h

/-- A magnitude scaled for the grids that are tried. -/
theorem scaled_lt {shift : Nat} (hshift : shift ≤ 340) :
    Binary64.units magnitude * Nat.pow 10 shift < 10 ^ 972 :=
  mul_lt_of_bounded (Binary64.units_lt h) (Nat.pow_le_pow_right (by decide) hshift)
    (by decide +kernel) (by decide +kernel)

theorem leading_le : leading (Binary64.units magnitude) ≤ 647 := by
  have hscaled := Nat.lt_of_le_of_lt (Nat.div_le_self _ Binary64.unitsPerOne)
    (scaled_lt h (show lift ≤ 340 by decide))
  have hlength := length_toDigits_le_of_lt hscaled (by decide)
  have hlift : (lift : Int) = 324 := rfl
  unfold leading
  omega

omit h in
theorem neg_lift_le_leading (units : Nat) : -324 ≤ leading units := by
  have hpos := length_toDigits_pos (units * Nat.pow 10 lift / Binary64.unitsPerOne)
  have hlift : (lift : Int) = 324 := rfl
  unfold leading
  omega

/-- A neighbour is one of two multiples of the power of ten of its grid. -/
theorem bounded_neighbour {tie : Tie} {exponent : Int} (hleast : -340 ≤ exponent)
    (hmost : exponent ≤ 647) {d : Decimal} (hfound : neighbour? tie magnitude exponent = some d) :
    d.Bounded := by
  have hscaled := scaled_lt h (show (-exponent).toNat ≤ 340 by omega)
  obtain ⟨hexponent, hcoefficient⟩ : d.exponent = exponent ∧ d.coefficient ≤
      Binary64.units magnitude * Nat.pow 10 (-exponent).toNat + 1 := by
    have hmem := List.mem_of_find?_eq_some hfound
    have hquotient := Nat.div_le_self (Binary64.units magnitude * Nat.pow 10 (-exponent).toNat)
      (Binary64.unitsPerOne * Nat.pow 10 exponent.toNat)
    generalize Binary64.units magnitude * Nat.pow 10 (-exponent).toNat = num at *
    generalize Binary64.unitsPerOne * Nat.pow 10 exponent.toNat = den at *
    have heither {nearerIsAbove : Bool} {above below : Decimal}
        (hmem : d ∈ if nearerIsAbove then [above, below] else [below, above]) :
        d = below ∨ d = above := by
      cases nearerIsAbove with
      | false => exact List.mem_pair.mp hmem
      | true => exact (List.mem_pair.mp hmem).symm
    rcases heither hmem with rfl | rfl
    · exact ⟨rfl, Nat.le_succ_of_le hquotient⟩
    · exact ⟨rfl, Nat.succ_le_succ hquotient⟩
  have hbelow : d.coefficient < 10 ^ 973 :=
    Nat.lt_of_le_of_lt (Nat.le_trans hcoefficient hscaled) (by decide +kernel)
  have hlength := length_toDigits_le_of_lt hbelow (by decide)
  exact ⟨by omega, by omega, by omega⟩

theorem bounded_exact : (exact magnitude).Bounded := by
  have hcoefficient : Binary64.units magnitude * Nat.pow 5 1074 < 10 ^ 1383 :=
    mul_lt_of_bounded (Binary64.units_lt h) (Nat.le_refl _)
      (by decide +kernel) (by decide +kernel)
  have hlength := length_toDigits_le_of_lt hcoefficient (by decide)
  refine ⟨hlength, Int.le_refl _, ?_⟩
  have hexponent : (exact magnitude).exponent = -1074 := rfl
  have hdigits : (exact magnitude).coefficient = Binary64.units magnitude * Nat.pow 5 1074 := rfl
  rw [hexponent, hdigits]
  omega

end Magnitude

/-- Zeros at the end are dropped without moving either end beyond its bound. -/
theorem bounded_dropZeros (fuel : Nat) {d : Decimal} (h : d.Bounded) :
    (dropZeros fuel d).Bounded := by
  induction fuel generalizing d with
  | zero => exact h
  | succ fuel ih =>
      unfold dropZeros
      split
      · rename_i hzero
        rw [Bool.and_eq_true, bne_iff_ne, beq_iff_eq] at hzero
        have hshorter := length_toDigits_div_ten hzero.1 hzero.2
        obtain ⟨hdigits, hending, hbeginning⟩ := h
        exact ih ⟨by dsimp only; omega, by dsimp only; omega, by dsimp only; omega⟩
      · exact h

theorem bounded_decimal (tie : Tie) {magnitude : Nat} (h : magnitude < Binary64.finiteCount) :
    (decimal tie magnitude).Bounded := by
  unfold decimal
  split
  · exact ⟨by decide, by decide, by decide⟩
  · dsimp only
    refine bounded_dropZeros _ ?_
    cases hfound : (List.range mostDigits).findSome? fun (more : Nat) =>
        neighbour? tie magnitude (leading (Binary64.units magnitude) - (more : Int)) with
    | none => exact bounded_exact h
    | some d =>
        obtain ⟨more, hmore, hneighbour⟩ := List.exists_of_findSome?_eq_some hfound
        have hrange : more < 17 := List.mem_range.mp hmore
        have hleast := neg_lift_le_leading (Binary64.units magnitude)
        have hmost := leading_le h
        exact bounded_neighbour h (by omega) (by omega) hneighbour

end Shortest

namespace NumberLayout

theorem length_plain_le {d : Decimal} (h : d.Bounded) :
    (plain false (toDigits d.coefficient) d.exponent).length ≤ 1620 := by
  obtain ⟨hdigits, hending, hbeginning⟩ := h
  unfold plain
  dsimp only
  split
  · simp only [Bool.false_eq_true, if_false, List.append_nil, List.length_append,
      List.length_replicate]
    omega
  split
  · simp only [List.length_append, List.length_take, List.length_cons, List.length_drop]
    omega
  · simp only [List.length_cons, List.length_append, List.length_replicate]
    omega

end NumberLayout

namespace Binary64

/-- No exponent is ever written, and still the text of a finite number is not long. -/
theorem length_text_le {x : Binary64} (h : x.isFinite = true) : x.text.toList.length ≤ 1621 := by
  cases x with
  | finite negative magnitude =>
      have hlength := NumberLayout.length_plain_le
        (Shortest.bounded_decimal NumberLayout.line.tie magnitude.isLt)
      have htext : (Binary64.finite negative magnitude).text.toList =
          NumberLayout.signed negative (NumberLayout.plain false
            (toDigits (Shortest.decimal NumberLayout.line.tie magnitude).coefficient)
            (Shortest.decimal NumberLayout.line.tie magnitude).exponent) :=
        String.toList_ofList
      rw [htext]
      cases negative with
      | false => exact Nat.le_succ_of_le hlength
      | true => exact Nat.succ_le_succ hlength
  | infinite | notANumber => cases h

end Binary64

end ChartBoard
