import ChartBoard.Number.Decimal
import ChartBoard.Proofs.Number.Nearest
import ChartBoard.Proofs.Text.Digits

/-!
What a decimal is read as. It depends on the value of the decimal alone: zeros may be moved
from the coefficient to the exponent. That a decimal far outside the range of magnitudes is
decided by its number of digits makes no difference, for its nearest magnitude is zero or
beyond the finite ones.
-/

namespace ChartBoard

open Text

namespace Decimal

/-- The magnitude nearest to a decimal. -/
def nearest (d : Decimal) : Nat := Binary64.nearest d.ratio.1 d.ratio.2

theorem ratio_eq (d : Decimal) :
    d.ratio = (d.coefficient * 10 ^ d.exponent.toNat, 10 ^ (-d.exponent).toNat) := rfl

theorem ratio_pos (d : Decimal) : 0 < d.ratio.2 := Nat.pow_pos (by decide)

/-- Zeros at the end of a coefficient may be left to the exponent. -/
theorem nearest_shift (coefficient zeros : Nat) (exponent : Int) :
    nearest ⟨coefficient * 10 ^ zeros, exponent⟩ = nearest ⟨coefficient, exponent + zeros⟩ := by
  refine Binary64.nearest_congr (ratio_pos _) (ratio_pos _) ?_
  have hpowers : zeros + exponent.toNat + (-(exponent + zeros)).toNat =
      (exponent + zeros).toNat + (-exponent).toNat := by omega
  simp only [ratio_eq, Nat.mul_assoc, ← Nat.pow_add]
  rw [hpowers]

theorem nearest_of_coefficient_eq_zero {d : Decimal} (h : d.coefficient = 0) : d.nearest = 0 := by
  refine Binary64.nearest_of_units d.ratio_pos ?_
  rw [Binary64.units_of_lt (Nat.two_pow_pos 52), ratio_eq, h]
  simp

/-- The number of digits before the point; negative, if there are zeros behind the point. -/
def scale (d : Decimal) : Int := (toDigits d.coefficient).length + d.exponent

/-- Enough zeros behind the point leave less than half the least magnitude. -/
theorem nearest_of_scale_lt {d : Decimal} {zeros : Nat}
    (hzeros : 2 * Binary64.unitsPerOne ≤ 10 ^ zeros) (h : d.scale < -zeros) : d.nearest = 0 := by
  refine Binary64.nearest_eq_zero ?_
  unfold scale at h
  have hexponent : d.exponent.toNat = 0 := by omega
  have hplaces : (toDigits d.coefficient).length + zeros ≤ (-d.exponent).toNat := by omega
  simp only [ratio_eq, hexponent, Nat.pow_zero, Nat.mul_one]
  calc 2 * (d.coefficient * Binary64.unitsPerOne)
      = d.coefficient * (2 * Binary64.unitsPerOne) := Nat.mul_left_comm _ _ _
    _ ≤ d.coefficient * 10 ^ zeros := Nat.mul_le_mul_left _ hzeros
    _ < 10 ^ (toDigits d.coefficient).length * 10 ^ zeros :=
        Nat.mul_lt_mul_of_pos_right (lt_pow_length_toDigits _) (Nat.pow_pos (by decide))
    _ = 10 ^ ((toDigits d.coefficient).length + zeros) := (Nat.pow_add _ _ _).symm
    _ ≤ 10 ^ (-d.exponent).toNat := Nat.pow_le_pow_right (by decide) hplaces

/-- Enough digits before the point make more than every finite magnitude. -/
theorem finiteCount_le_nearest {d : Decimal} {digits bits : Nat} (hne : d.coefficient ≠ 0)
    (hbits : 2098 ≤ bits) (hdigits : 2 ^ bits ≤ 10 ^ digits * Binary64.unitsPerOne)
    (h : digits < d.scale) : Binary64.finiteCount ≤ d.nearest := by
  refine Binary64.finiteCount_le_nearest hbits d.ratio_pos ?_
  unfold scale at h
  have hplaces : digits + (-d.exponent).toNat ≤
      (toDigits d.coefficient).length - 1 + d.exponent.toNat := by omega
  have hnum : 10 ^ digits * d.ratio.2 ≤ d.ratio.1 := by
    rw [ratio_eq]
    calc 10 ^ digits * 10 ^ (-d.exponent).toNat
        = 10 ^ (digits + (-d.exponent).toNat) := (Nat.pow_add _ _ _).symm
      _ ≤ 10 ^ ((toDigits d.coefficient).length - 1 + d.exponent.toNat) :=
          Nat.pow_le_pow_right (by decide) hplaces
      _ = 10 ^ ((toDigits d.coefficient).length - 1) * 10 ^ d.exponent.toNat := Nat.pow_add _ _ _
      _ ≤ d.coefficient * 10 ^ d.exponent.toNat :=
          Nat.mul_le_mul_right _ (pow_length_toDigits_le hne)
  calc 2 ^ bits * d.ratio.2
      ≤ 10 ^ digits * Binary64.unitsPerOne * d.ratio.2 := Nat.mul_le_mul_right _ hdigits
    _ = 10 ^ digits * d.ratio.2 * Binary64.unitsPerOne := Nat.mul_right_comm _ _ _
    _ ≤ d.ratio.1 * Binary64.unitsPerOne := Nat.mul_le_mul_right _ hnum

/-- Every decimal is read as the number nearest to it. -/
theorem toBinary64_eq_ofRatio (negative : Bool) (d : Decimal) :
    d.toBinary64 negative = Binary64.ofRatio negative d.ratio.1 d.ratio.2 := by
  have hzero (h : d.nearest = 0) : Binary64.ofRatio negative 0 1 =
      Binary64.ofRatio negative d.ratio.1 d.ratio.2 := by
    have hnone : nearest ⟨0, 0⟩ = d.nearest := by
      rw [h]
      exact nearest_of_coefficient_eq_zero rfl
    unfold Binary64.ofRatio
    simp only [show Binary64.nearest 0 1 = Binary64.nearest d.ratio.1 d.ratio.2 from hnone]
  unfold toBinary64
  change (if _ || decide (d.scale < -330) then _ else if 311 < d.scale then _ else _) = _
  by_cases hcoefficient : d.coefficient = 0
  · rw [if_pos (by simp [hcoefficient])]
    exact hzero (nearest_of_coefficient_eq_zero hcoefficient)
  by_cases hsmall : d.scale < -330
  · rw [if_pos (by simp [hsmall])]
    exact hzero (nearest_of_scale_lt (by decide +kernel) hsmall)
  rw [if_neg (by simp [hcoefficient, hsmall])]
  by_cases hlarge : 311 < d.scale
  · have hinfinite : ¬Binary64.nearest d.ratio.1 d.ratio.2 < Binary64.finiteCount :=
      Nat.not_lt.mpr (finiteCount_le_nearest hcoefficient (Nat.le_refl 2098)
        (by decide +kernel) hlarge)
    rw [if_pos hlarge, Binary64.ofRatio, dif_neg hinfinite]
  · rw [if_neg hlarge]

/-- A decimal whose nearest magnitude is finite is read as that magnitude. -/
theorem toBinary64_of_nearest {d : Decimal} {magnitude : Fin Binary64.finiteCount}
    (h : d.nearest = magnitude) (negative : Bool) :
    d.toBinary64 negative = .finite negative magnitude := by
  have hfinite : d.nearest < Binary64.finiteCount := h ▸ magnitude.isLt
  have hread : Binary64.ofRatio negative d.ratio.1 d.ratio.2 =
      .finite negative ⟨d.nearest, hfinite⟩ :=
    dif_pos hfinite
  rw [toBinary64_eq_ofRatio, hread]
  exact congrArg _ (Fin.ext h)

end Decimal

end ChartBoard
