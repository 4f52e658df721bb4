import ChartBoard.Proofs.Number.DecimalValue
import Mathlib.Algebra.Order.Ring.Nat
import Mathlib.Tactic.Ring

/-!
Which decimals are finite as 64-bit numbers: those whose magnitude is less than
`2 ^ 1024 - 2 ^ 970`, the middle between the greatest finite magnitude and the power of two that
would follow it (`Decimal.isFinite_toBinary64`). The middle itself goes up, to the even side.
-/

namespace ChartBoard

namespace Binary64

/-- The last whole number below an even one is odd, so the middle between them goes up. -/
theorem roundQuotient_lt_iff {num den k : Nat} (hden : 0 < den) :
    roundQuotient num den < 2 * (k + 1) ↔ 2 * num < (4 * k + 3) * den := by
  have hsum := Nat.div_add_mod num den
  have hrest := Nat.mod_lt num hden
  unfold roundQuotient
  dsimp only
  generalize num / den = quotient at *
  generalize num % den = rest at *
  have hmiddle : (4 * k + 3) * den = 2 * (den * (2 * k + 1)) + den := by ring
  rw [hmiddle, ← hsum]
  rcases Nat.lt_trichotomy quotient (2 * k + 1) with hless | rfl | hmore
  · have hbelow : den * quotient + den ≤ den * (2 * k + 1) := Nat.mul_le_mul_left den hless
    constructor
    · intro _
      omega
    · intro _
      split <;> omega
  · have hodd : (2 * k + 1) % 2 = 1 := by omega
    split
    · rename_i hup
      simp only [hodd, Bool.or_eq_true, decide_eq_true_eq, Bool.and_eq_true, beq_iff_eq,
        and_true] at hup
      omega
    · rename_i hdown
      simp only [hodd, Bool.or_eq_true, decide_eq_true_eq, Bool.and_eq_true, beq_iff_eq,
        and_true] at hdown
      omega
  · have habove : den * (2 * k + 1) + den ≤ den * quotient := Nat.mul_le_mul_left den hmore
    constructor
    · intro hlow
      split at hlow <;> omega
    · intro _
      omega

theorem roundQuotient_le {num den k : Nat} (hden : 0 < den) (h : num < k * den) :
    roundQuotient num den ≤ k := by
  have hquotient : num / den < k := (Nat.div_lt_iff_lt_mul hden).mpr h
  unfold roundQuotient
  dsimp only
  split <;> omega

/-- The least quotient that is not rounded to a finite number. -/
def overflow : Nat := (2 ^ 54 - 1) * 2 ^ 970

section Threshold

variable {num den : Nat}

theorem two_pow_eq {first second sum : Nat} (h : first + second = sum) :
    2 ^ sum = 2 ^ first * 2 ^ second := by
  rw [← h, Nat.pow_add]

theorem two_pow_succ_eq {exponent next : Nat} (h : exponent + 1 = next) :
    2 ^ next = 2 * 2 ^ exponent := by
  rw [← h, Nat.pow_succ']

theorem two_pow_mul_le {first second last : Nat} (h : first + second ≤ last) :
    2 ^ first * 2 ^ second ≤ 2 ^ last := by
  rw [← Nat.pow_add]
  exact Nat.pow_le_pow_right (by decide) h

/-- The threshold, counted in units. -/
theorem lt_overflow_iff : num < overflow * den ↔
    num * unitsPerOne < (2 ^ 54 - 1) * (2 ^ 2044 * den) := by
  have hpositive : 0 < unitsPerOne := by
    rw [unitsPerOne, Nat.one_shiftLeft]
    exact Nat.two_pow_pos 1074
  have hunits : (2 ^ 54 - 1) * (2 ^ 2044 * den) = overflow * den * unitsPerOne := by
    rw [overflow, unitsPerOne, Nat.one_shiftLeft, two_pow_eq (by decide : 970 + 1074 = 2044)]
    simp only [Nat.mul_assoc, Nat.mul_comm den]
  rw [hunits, Nat.mul_lt_mul_right hpositive]

theorem nearest_eq (num den : Nat) :
    ∃ e, e = Nat.log2 (num * unitsPerOne / den) ∧
      nearest num den =
        roundQuotient (num * unitsPerOne) (2 ^ (e - 52) * den) + (e - 52) * 2 ^ 52 := by
  refine ⟨_, rfl, ?_⟩
  unfold nearest
  dsimp only
  generalize Nat.log2 (num * unitsPerOne / den) - 52 = shift
  rw [Nat.shiftLeft_eq den, Nat.shiftLeft_eq shift, Nat.mul_comm den]

theorem pow_mul_le {first last : Nat} (h : first ≤ last) (den : Nat) :
    2 ^ first * den ≤ 2 ^ last * den :=
  Nat.mul_le_mul_right den (Nat.pow_le_pow_right (by decide) h)

theorem nearest_lt_finiteCount_iff (hden : 0 < den) :
    nearest num den < finiteCount ↔ num < overflow * den := by
  have hcount : finiteCount = 2047 * 2 ^ 52 := by
    rw [finiteCount, Nat.shiftLeft_eq]
  obtain ⟨e, he, hnearest⟩ := nearest_eq num den
  have hmost : num * unitsPerOne < 2 ^ (e + 1) * den := by
    rw [← Nat.div_lt_iff_lt_mul hden, he]
    exact Nat.lt_log2_self
  have hspacing : 0 < 2 ^ (e - 52) * den := Nat.mul_pos (Nat.two_pow_pos _) hden
  rw [lt_overflow_iff]
  obtain ⟨widest, hwidest⟩ : ∃ widest, widest = 2 ^ 2044 * den := ⟨_, rfl⟩
  rw [← hwidest]
  rcases Nat.lt_trichotomy e 2097 with hless | hequal | hmore
  · have hbits : 2 ^ (e + 1) * den ≤ 2 ^ 53 * (2 ^ (e - 52) * den) := by
      rw [← Nat.mul_assoc, ← Nat.pow_add]
      exact pow_mul_le (by omega) den
    have hround := roundQuotient_le hspacing (Nat.lt_of_lt_of_le hmost hbits)
    have hlower : 2 ^ (e - 52) * den ≤ widest := by
      rw [hwidest]
      exact pow_mul_le (by omega) den
    omega
  · have hdouble : 2 ^ (e - 52) * den = 2 * widest := by
      rw [two_pow_succ_eq (by omega : 2044 + 1 = e - 52), Nat.mul_assoc, hwidest]
    rw [hdouble] at hnearest hspacing
    have hiff : roundQuotient (num * unitsPerOne) (2 * widest) < 2 * (2 ^ 52 - 1 + 1) ↔ _ :=
      roundQuotient_lt_iff hspacing
    omega
  · have hne : num * unitsPerOne / den ≠ 0 := by
      intro hzero
      rw [hzero, Nat.log2_zero] at he
      omega
    have hleast : 2 ^ e * den ≤ num * unitsPerOne := by
      rw [← Nat.le_div_iff_mul_le hden, he]
      exact Nat.log2_self_le hne
    have hinfinite := finiteCount_le_nearest hmore hden hleast
    have hpowers : 2 ^ 54 * 2 ^ 2044 ≤ 2 ^ e := two_pow_mul_le hmore
    have hhigher : 2 ^ 54 * widest ≤ 2 ^ e * den := by
      rw [hwidest, ← Nat.mul_assoc]
      exact Nat.mul_le_mul_right den hpowers
    omega

end Threshold

theorem isFinite_ofRatio (negative : Bool) {num den : Nat} (hden : 0 < den) :
    (ofRatio negative num den).isFinite = true ↔ num < overflow * den := by
  rw [← nearest_lt_finiteCount_iff hden]
  unfold ofRatio
  split
  · simp [isFinite, *]
  · simp [isFinite, *]

end Binary64

/-- A decimal is read as a finite number exactly if it is less than the threshold. -/
theorem Decimal.isFinite_toBinary64 (negative : Bool) (d : Decimal) :
    (d.toBinary64 negative).isFinite = true ↔ d.ratio.1 < Binary64.overflow * d.ratio.2 := by
  rw [toBinary64_eq_ofRatio, Binary64.isFinite_ofRatio negative d.ratio_pos]

end ChartBoard
