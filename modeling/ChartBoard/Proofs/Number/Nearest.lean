import ChartBoard.Number.Binary64
import Mathlib.Algebra.Group.Nat.Defs

/-!
Rounding to 64 bits. The magnitude nearest to a quotient depends on the quotient alone, not
on numerator and denominator; a quotient that is a magnitude is rounded to itself; one below
half the least magnitude is rounded to zero, and one from `2 ^ 1024` on to no finite magnitude.
-/

namespace ChartBoard.Binary64

section RoundQuotient

variable {num den k : Nat}

theorem roundQuotient_mul_right (hk : 0 < k) :
    roundQuotient (num * k) (den * k) = roundQuotient num den := by
  have hrest : 2 * (num * k % (den * k)) = 2 * (num % den) * k := by
    rw [Nat.mul_mod_mul_right, Nat.mul_assoc]
  have hmore : (den * k < 2 * (num % den) * k) = (den < 2 * (num % den)) :=
    propext (Nat.mul_lt_mul_right hk)
  have hhalf : (den * k == 2 * (num % den) * k) = (den == 2 * (num % den)) := by
    rw [Bool.eq_iff_iff, beq_iff_eq, beq_iff_eq]
    exact Nat.mul_left_inj (Nat.ne_of_gt hk)
  unfold roundQuotient
  dsimp only
  simp only [Nat.mul_div_mul_right _ _ hk, hrest, hmore, hhalf]

theorem roundQuotient_exact (quotient : Nat) (hden : 0 < den) :
    roundQuotient (quotient * den) den = quotient := by
  have hhalf : ¬den = 0 := Nat.ne_of_gt hden
  simp [roundQuotient, Nat.mul_div_cancel _ hden, hhalf]

theorem div_le_roundQuotient (num den : Nat) : num / den ≤ roundQuotient num den := by
  unfold roundQuotient
  dsimp only
  split <;> omega

theorem roundQuotient_eq_zero (h : 2 * num < den) : roundQuotient num den = 0 := by
  have hquotient : num / den = 0 := Nat.div_eq_of_lt (by omega)
  have hrest : num % den = num := Nat.mod_eq_of_lt (by omega)
  have hless : ¬den < 2 * num := by omega
  simp [roundQuotient, hquotient, hrest, hless]

end RoundQuotient

section Nearest

variable {num den : Nat}

theorem nearest_mul_right {k : Nat} (hk : 0 < k) :
    nearest (num * k) (den * k) = nearest num den := by
  have hscaled : num * k * unitsPerOne = num * unitsPerOne * k := Nat.mul_right_comm _ _ _
  have hdivisor (shift : Nat) : (den * k) <<< shift = den <<< shift * k := by
    rw [Nat.shiftLeft_eq, Nat.shiftLeft_eq, Nat.mul_right_comm]
  unfold nearest
  dsimp only
  rw [hscaled, Nat.mul_div_mul_right _ _ hk, hdivisor, roundQuotient_mul_right hk]

/-- Equal quotients have the same nearest magnitude. -/
theorem nearest_congr {num' den' : Nat} (hden : 0 < den) (hden' : 0 < den')
    (h : num * den' = num' * den) : nearest num den = nearest num' den' := by
  rw [← nearest_mul_right hden', h, Nat.mul_comm den den', nearest_mul_right hden]

/-- A magnitude of at least 53 bits is the distance of its neighbours times a whole number of
exactly 53 bits. -/
theorem units_of_le {magnitude : Nat} (h : 2 ^ 52 ≤ magnitude) :
    ∃ bits spacing, units magnitude = bits * 2 ^ spacing ∧ 2 ^ 52 ≤ bits ∧ bits < 2 ^ 53 ∧
      magnitude = bits + spacing * 2 ^ 52 := by
  refine ⟨2 ^ 52 + magnitude % 2 ^ 52, magnitude / 2 ^ 52 - 1, ?_, by omega, by omega, by omega⟩
  have hnot : ¬magnitude < 1 <<< 52 := by
    rw [Nat.one_shiftLeft]
    omega
  rw [units, if_neg hnot, Nat.shiftLeft_eq, Nat.one_shiftLeft]

theorem units_of_lt {magnitude : Nat} (h : magnitude < 2 ^ 52) : units magnitude = magnitude := by
  rw [units, Nat.one_shiftLeft, if_pos h]

/-- A quotient that is a magnitude is rounded to it. -/
theorem nearest_of_units {magnitude : Nat} (hden : 0 < den)
    (h : num * unitsPerOne = units magnitude * den) : nearest num den = magnitude := by
  unfold nearest
  dsimp only
  rw [h, Nat.mul_div_cancel _ hden]
  by_cases hsmall : magnitude < 2 ^ 52
  · rw [units_of_lt hsmall]
    have hshift : Nat.log2 magnitude - 52 = 0 := by
      by_cases hzero : magnitude = 0
      · rw [hzero]
        rfl
      · have hlog := (Nat.log2_lt hzero).mpr hsmall
        omega
    rw [hshift, Nat.shiftLeft_zero, Nat.zero_shiftLeft, roundQuotient_exact _ hden, Nat.add_zero]
  · obtain ⟨bits, spacing, hunits, hleast, hmost, hmagnitude⟩ :=
      units_of_le (Nat.le_of_not_lt hsmall)
    have hlog : Nat.log2 (bits * 2 ^ spacing) = 52 + spacing := by
      rw [Nat.log2_eq_iff (Nat.ne_of_gt (Nat.mul_pos (by omega) (Nat.two_pow_pos spacing))),
        Nat.pow_add, Nat.add_right_comm, Nat.pow_add]
      exact ⟨Nat.mul_le_mul_right _ hleast, Nat.mul_lt_mul_of_pos_right hmost (Nat.two_pow_pos _)⟩
    have hexact : bits * 2 ^ spacing * den = bits * (den <<< spacing) := by
      rw [Nat.shiftLeft_eq, Nat.mul_assoc, Nat.mul_comm (2 ^ spacing)]
    have hdivisor : 0 < den <<< spacing := by
      rw [Nat.shiftLeft_eq]
      exact Nat.mul_pos hden (Nat.two_pow_pos spacing)
    rw [hunits, hlog, Nat.add_sub_cancel_left, hexact, roundQuotient_exact _ hdivisor,
      Nat.shiftLeft_eq, hmagnitude]

/-- What is below half the least magnitude is rounded to zero. -/
theorem nearest_eq_zero (h : 2 * (num * unitsPerOne) < den) : nearest num den = 0 := by
  have hquotient : num * unitsPerOne / den = 0 := Nat.div_eq_of_lt (by omega)
  unfold nearest
  dsimp only
  rw [hquotient, Nat.log2_zero, Nat.zero_sub, Nat.shiftLeft_zero, Nat.zero_shiftLeft,
    roundQuotient_eq_zero h]

/-- What has enough bits is rounded to a magnitude of at least as many. -/
theorem le_nearest {spacing : Nat} (hden : 0 < den)
    (h : 2 ^ (52 + spacing) * den ≤ num * unitsPerOne) :
    (spacing + 1) * 2 ^ 52 ≤ nearest num den := by
  unfold nearest
  dsimp only
  obtain ⟨quotient, hquotient⟩ : ∃ quotient, quotient = num * unitsPerOne / den := ⟨_, rfl⟩
  have hlarge : 2 ^ (52 + spacing) ≤ quotient := hquotient ▸ (Nat.le_div_iff_mul_le hden).mpr h
  have hpos : quotient ≠ 0 := Nat.ne_of_gt (Nat.lt_of_lt_of_le (Nat.two_pow_pos _) hlarge)
  have hlog : 52 + spacing ≤ Nat.log2 quotient := (Nat.le_log2 hpos).mpr hlarge
  rw [← hquotient]
  obtain ⟨shift, hshift⟩ : ∃ shift, Nat.log2 quotient = 52 + shift :=
    ⟨Nat.log2 quotient - 52, by omega⟩
  have hfull : 2 ^ 52 ≤ num * unitsPerOne / (den <<< shift) := by
    rw [Nat.shiftLeft_eq, ← Nat.div_div_eq_div_mul, ← hquotient,
      Nat.le_div_iff_mul_le (Nat.two_pow_pos shift), ← Nat.pow_add, ← hshift]
    exact Nat.log2_self_le hpos
  have hround := Nat.le_trans hfull (div_le_roundQuotient (num * unitsPerOne) (den <<< shift))
  have htotal : shift <<< 52 = shift * 2 ^ 52 := Nat.shiftLeft_eq shift 52
  rw [hshift, Nat.add_sub_cancel_left, htotal]
  omega

/-- What is at least `2 ^ 1024` is rounded to no finite magnitude. -/
theorem finiteCount_le_nearest {bits : Nat} (hbits : 2098 ≤ bits) (hden : 0 < den)
    (h : 2 ^ bits * den ≤ num * unitsPerOne) : finiteCount ≤ nearest num den := by
  have hcount : finiteCount = 2047 * 2 ^ 52 := by
    rw [finiteCount, Nat.shiftLeft_eq]
  obtain ⟨spacing, rfl⟩ : ∃ spacing, bits = 52 + spacing := ⟨bits - 52, by omega⟩
  rw [hcount]
  refine Nat.le_trans (Nat.mul_le_mul_right (2 ^ 52) ?_) (le_nearest hden h)
  clear h
  omega

end Nearest

end ChartBoard.Binary64
