import ChartBoard.Number.Arithmetic
import ChartBoard.Proofs.Number.Order

/-!
How large the results of arithmetic can be. A quotient of at most a power of two has no nearest
number beyond that power (`Binary64.atMost_ofRatio`), and so bounds by powers of two go through
products, sums and quotients. A result with such a bound is finite (`Binary64.AtMost.isFinite`).
-/

namespace ChartBoard.Binary64

section Rounding

variable {spacing : Nat}

/-- The magnitude that a power of two has. -/
theorem units_two_pow (spacing : Nat) : units ((spacing + 1) * 2 ^ 52) = 2 ^ (52 + spacing) := by
  rw [Nat.succ_mul, Nat.add_comm, units_eq (Nat.le_refl _) (by decide), Nat.pow_add]

theorem units_le {magnitude : Nat} (h : magnitude ≤ (spacing + 1) * 2 ^ 52) :
    units magnitude ≤ 2 ^ (52 + spacing) := by
  by_cases hsmall : magnitude < 2 ^ 52
  · rw [units_of_lt hsmall]
    exact Nat.le_trans (Nat.le_of_lt hsmall)
      (Nat.pow_le_pow_right (by decide) (Nat.le_add_right _ _))
  rcases Nat.lt_or_eq_of_le h with hless | rfl
  · obtain ⟨bits, finer, hunits, hleast, hmost, hmagnitude⟩ := units_of_le (Nat.le_of_not_lt hsmall)
    have hfiner : 53 + finer ≤ 52 + spacing := by omega
    rw [hunits]
    exact Nat.le_trans (Nat.mul_le_mul_right _ (Nat.le_of_lt hmost)) (two_pow_mul_le hfiner)
  · exact Nat.le_of_eq (units_two_pow spacing)

/-- What is at most a power of two is rounded to no magnitude beyond it. -/
theorem nearest_le {num den : Nat} (hden : 0 < den)
    (h : num * unitsPerOne ≤ 2 ^ (52 + spacing) * den) :
    nearest num den ≤ (spacing + 1) * 2 ^ 52 := by
  rcases Nat.lt_or_eq_of_le h with hless | hequal
  · obtain ⟨e, he, hnearest⟩ := nearest_eq num den
    have hquotient : num * unitsPerOne / den < 2 ^ (52 + spacing) :=
      (Nat.div_lt_iff_lt_mul hden).mpr hless
    have hbits : e < 52 + spacing := by
      by_cases hzero : num * unitsPerOne / den = 0
      · rw [he, hzero, Nat.log2_zero]
        omega
      · exact he ▸ (Nat.log2_lt hzero).mpr hquotient
    have hmost : num * unitsPerOne < 2 ^ (e + 1) * den := by
      rw [← Nat.div_lt_iff_lt_mul hden, he]
      exact Nat.lt_log2_self
    have hspacing : 0 < 2 ^ (e - 52) * den := Nat.mul_pos (Nat.two_pow_pos _) hden
    -- below 53 bits nothing is cut off, so the quotient has the bits of the power alone
    by_cases hfew : e < 52
    · have hwhole : 2 ^ (e + 1) * den ≤ 2 ^ 52 * (2 ^ (e - 52) * den) := by
        rw [← Nat.mul_assoc, ← Nat.pow_add]
        exact pow_mul_le (by omega) den
      have hround := roundQuotient_le hspacing (Nat.lt_of_lt_of_le hmost hwhole)
      omega
    · have hcut : 2 ^ (e + 1) * den ≤ 2 ^ 53 * (2 ^ (e - 52) * den) := by
        rw [← Nat.mul_assoc, ← Nat.pow_add]
        exact pow_mul_le (by omega) den
      have hround := roundQuotient_le hspacing (Nat.lt_of_lt_of_le hmost hcut)
      omega
  · rw [nearest_of_units hden (by rw [hequal, units_two_pow])]

end Rounding

/-- A finite number of at most `2 ^ e`, whatever its sign. -/
def AtMost (e : Nat) (x : Binary64) : Prop :=
  ∃ negative magnitude, x = finite negative magnitude ∧ units magnitude ≤ 2 ^ e * unitsPerOne

/-- A finite number of at least one, whatever its sign. -/
def AtLeastOne (x : Binary64) : Prop :=
  ∃ negative magnitude, x = finite negative magnitude ∧ unitsPerOne ≤ units magnitude

section Bounds

variable {e e' : Nat} {x y : Binary64}

theorem AtMost.isFinite (h : AtMost e x) : x.isFinite = true := by
  obtain ⟨negative, magnitude, rfl, -⟩ := h
  rfl

theorem AtMost.mono (h : AtMost e x) (hle : e ≤ e') : AtMost e' x := by
  obtain ⟨negative, magnitude, rfl, hunits⟩ := h
  exact ⟨negative, magnitude, rfl, Nat.le_trans hunits (pow_mul_le hle unitsPerOne)⟩

theorem atMost_ofRatio {negative : Bool} {num den : Nat} (hden : 0 < den) (he : e ≤ 1023)
    (h : num ≤ 2 ^ e * den) : AtMost e (ofRatio negative num den) := by
  have hpower : 2 ^ (52 + (1022 + e)) = 2 ^ e * unitsPerOne := by
    rw [unitsPerOne, Nat.one_shiftLeft, two_pow_eq (by omega : e + 1074 = 52 + (1022 + e))]
  have hscaled : num * unitsPerOne ≤ 2 ^ (52 + (1022 + e)) * den := by
    rw [hpower, Nat.mul_right_comm]
    exact Nat.mul_le_mul_right unitsPerOne h
  have hnearest := nearest_le hden hscaled
  have hfinite : nearest num den < finiteCount := by
    have hcount : finiteCount = 2047 * 2 ^ 52 := Nat.shiftLeft_eq _ _
    omega
  exact ⟨negative, ⟨_, hfinite⟩, ofRatio_eq rfl hfinite, hpower ▸ units_le hnearest⟩

theorem ofNat_eq_ofRatio (n : Nat) : ofNat n = ofRatio false n 1 := by
  rw [ofNat, ofInt, Int.natAbs_natCast, decide_eq_false (by omega)]

theorem atMost_ofNat {n : Nat} (he : e ≤ 1023) (h : n ≤ 2 ^ e) : AtMost e (ofNat n) := by
  rw [ofNat_eq_ofRatio]
  exact atMost_ofRatio Nat.one_pos he (by rwa [Nat.mul_one])

theorem atLeastOne_ofNat {n : Nat} (hleast : 1 ≤ n) (hfinite : n < overflow) :
    AtLeastOne (ofNat n) := by
  have hnearest : nearest n 1 < finiteCount := by
    rwa [nearest_lt_finiteCount_iff Nat.one_pos, Nat.mul_one]
  obtain ⟨spacing, hspacing⟩ : ∃ spacing, 52 + spacing = 1074 := ⟨1022, rfl⟩
  have hpower : unitsPerOne = 2 ^ (52 + spacing) := by
    rw [unitsPerOne_eq hspacing, Nat.pow_add]
  have hscaled : 2 ^ (52 + spacing) * 1 ≤ n * unitsPerOne := by
    rw [Nat.mul_comm, hpower]
    exact Nat.mul_le_mul_right _ hleast
  rw [ofNat_eq_ofRatio]
  refine ⟨false, ⟨_, hnearest⟩, ofRatio_eq rfl hnearest, ?_⟩
  rw [hpower]
  exact le_units (le_nearest Nat.one_pos hscaled)

theorem AtMost.mul (hx : AtMost e x) (hy : AtMost e' y) (he : e + e' ≤ 1023) :
    AtMost (e + e') (x * y) := by
  obtain ⟨negative, magnitude, rfl, hunits⟩ := hx
  obtain ⟨negative', magnitude', rfl, hunits'⟩ := hy
  rw [finite_mul_finite]
  refine atMost_ofRatio (Nat.mul_pos unitsPerOne_pos unitsPerOne_pos) he ?_
  calc units magnitude * units magnitude'
      ≤ 2 ^ e * unitsPerOne * (2 ^ e' * unitsPerOne) := Nat.mul_le_mul hunits hunits'
    _ = 2 ^ (e + e') * (unitsPerOne * unitsPerOne) := by
        rw [Nat.pow_add, Nat.mul_mul_mul_comm]

theorem natAbs_signed (negative : Bool) (n : Nat) : (signed negative n).natAbs = n := by
  cases negative with
  | false => exact Int.natAbs_natCast n
  | true => exact (Int.natAbs_neg n).trans (Int.natAbs_natCast n)

theorem AtMost.add (hx : AtMost e x) (hy : AtMost e y) (he : e < 1023) :
    AtMost (e + 1) (x + y) := by
  obtain ⟨negative, magnitude, rfl, hunits⟩ := hx
  obtain ⟨negative', magnitude', rfl, hunits'⟩ := hy
  obtain ⟨negative'', hsum⟩ := finite_add_finite negative negative' magnitude magnitude'
  rw [hsum]
  refine atMost_ofRatio unitsPerOne_pos he ?_
  calc (signed negative (units magnitude) + signed negative' (units magnitude')).natAbs
      ≤ units magnitude + units magnitude' := by
        have hparts := Int.natAbs_add_le (signed negative (units magnitude))
          (signed negative' (units magnitude'))
        rwa [natAbs_signed, natAbs_signed] at hparts
    _ ≤ 2 ^ e * unitsPerOne + 2 ^ e * unitsPerOne := Nat.add_le_add hunits hunits'
    _ = 2 ^ (e + 1) * unitsPerOne := by rw [← Nat.add_mul, Nat.pow_succ, Nat.mul_two]

/-- Division by a number of at least one makes no number larger. -/
theorem AtMost.div (hx : AtMost e x) (hy : AtLeastOne y) (he : e ≤ 1023) : AtMost e (x / y) := by
  obtain ⟨negative, magnitude, rfl, hunits⟩ := hx
  obtain ⟨negative', magnitude', rfl, hunits'⟩ := hy
  have hne : magnitude'.val ≠ 0 := by
    intro hzero
    rw [hzero, units_of_lt (Nat.two_pow_pos 52)] at hunits'
    exact Nat.not_lt.mpr hunits' unitsPerOne_pos
  rw [finite_div_finite _ _ _ _ hne]
  exact atMost_ofRatio (Nat.lt_of_lt_of_le unitsPerOne_pos hunits') he
    (Nat.le_trans hunits (Nat.mul_le_mul_left _ hunits'))

end Bounds

end ChartBoard.Binary64
