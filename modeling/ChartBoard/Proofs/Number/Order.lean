import ChartBoard.Proofs.Number.Overflow

/-!
The order of finite numbers, and the whole numbers among them. A finite number is an integer times
the least positive one, and numbers are compared by these integers. Every whole number of less than
53 bits is a number of 64 bits itself (`Binary64.inUnits?_ofInt`), so such whole numbers keep their
order (`Binary64.less_ofInt`).
-/

namespace ChartBoard.Binary64

/-- How many times the least positive number a finite number is. -/
def inUnits? : Binary64 → Option Int
  | finite negative magnitude =>
      some (if negative then -(units magnitude : Int) else (units magnitude : Int))
  | _ => none

/-- One finite number is less than another. -/
def Less (x y : Binary64) : Prop :=
  ∃ m n, x.inUnits? = some m ∧ y.inUnits? = some n ∧ m < n

theorem units_eq {bits spacing : Nat} (hleast : 2 ^ 52 ≤ bits) (hmost : bits < 2 ^ 53) :
    units (bits + spacing * 2 ^ 52) = bits * 2 ^ spacing := by
  have hrest : 2 ^ 52 + (bits + spacing * 2 ^ 52) % 2 ^ 52 = bits := by omega
  have hexponent : (bits + spacing * 2 ^ 52) / 2 ^ 52 - 1 = spacing := by omega
  have hnot : ¬bits + spacing * 2 ^ 52 < 1 <<< 52 := by
    rw [Nat.one_shiftLeft]
    omega
  rw [units, if_neg hnot, Nat.one_shiftLeft, hrest, hexponent, Nat.shiftLeft_eq]

theorem unitsPerOne_eq {first second : Nat} (h : first + second = 1074) :
    unitsPerOne = 2 ^ first * 2 ^ second := by
  rw [unitsPerOne, ← h, Nat.one_shiftLeft, Nat.pow_add]

theorem le_units {spacing magnitude : Nat} (h : (spacing + 1) * 2 ^ 52 ≤ magnitude) :
    2 ^ (52 + spacing) ≤ units magnitude := by
  have hmagnitude : 2 ^ 52 ≤ magnitude := by omega
  obtain ⟨bits, wider, hunits, hleast, hmost, hmagnitude⟩ := units_of_le hmagnitude
  have hwider : spacing ≤ wider := by omega
  rw [hunits, Nat.pow_add]
  exact Nat.mul_le_mul hleast (Nat.pow_le_pow_right (by decide) hwider)

/-- A whole number of less than 53 bits is a magnitude: its bits are filled up to 53 with zeros. -/
theorem exists_units_eq {n : Nat} (h : n < 2 ^ 53) :
    ∃ magnitude, units magnitude = n * unitsPerOne := by
  by_cases hzero : n = 0
  · exact ⟨0, by rw [units_of_lt (Nat.two_pow_pos 52), hzero, Nat.zero_mul]⟩
  obtain ⟨e, he⟩ : ∃ e, e = Nat.log2 n := ⟨_, rfl⟩
  obtain ⟨hleast, hmost⟩ := (Nat.log2_eq_iff hzero).mp he.symm
  have hbits : e < 53 := he ▸ (Nat.log2_lt hzero).mpr h
  have hfilled : 2 ^ e * 2 ^ (52 - e) = 2 ^ 52 := (two_pow_eq (by omega)).symm
  have hfilled' : 2 ^ (e + 1) * 2 ^ (52 - e) = 2 ^ 53 := (two_pow_eq (by omega)).symm
  have hfew : 2 ^ 52 ≤ n * 2 ^ (52 - e) := hfilled ▸ Nat.mul_le_mul_right _ hleast
  have hmany : n * 2 ^ (52 - e) < 2 ^ 53 :=
    hfilled' ▸ Nat.mul_lt_mul_of_pos_right hmost (Nat.two_pow_pos _)
  refine ⟨n * 2 ^ (52 - e) + (1022 + e) * 2 ^ 52, ?_⟩
  rw [units_eq hfew hmany, unitsPerOne_eq (by omega : (52 - e) + (1022 + e) = 1074), Nat.mul_assoc]

theorem ofRatio_eq {negative : Bool} {num den magnitude : Nat} (h : nearest num den = magnitude)
    (hfinite : magnitude < finiteCount) :
    ofRatio negative num den = finite negative ⟨magnitude, hfinite⟩ := by
  subst h
  exact dif_pos hfinite

theorem unitsPerOne_pos : 0 < unitsPerOne := by
  rw [unitsPerOne, Nat.one_shiftLeft]
  exact Nat.two_pow_pos 1074

/-- Whole numbers of less than 53 bits are exact. -/
theorem ofInt_eq {n : Int} (h : n.natAbs < 2 ^ 53) :
    ∃ magnitude, ∃ hfinite : magnitude < finiteCount,
      ofInt n = finite (decide (n < 0)) ⟨magnitude, hfinite⟩ ∧
      units magnitude = n.natAbs * unitsPerOne := by
  obtain ⟨magnitude, hunits⟩ := exists_units_eq h
  have hnearest : nearest n.natAbs 1 = magnitude :=
    nearest_of_units Nat.one_pos (by rw [Nat.mul_one, hunits])
  have hfinite : magnitude < finiteCount := by
    rw [← hnearest, nearest_lt_finiteCount_iff Nat.one_pos, Nat.mul_one]
    exact Nat.lt_trans h (by decide +kernel)
  exact ⟨magnitude, hfinite, ofRatio_eq hnearest hfinite, hunits⟩

theorem inUnits?_ofInt {n : Int} (h : n.natAbs < 2 ^ 53) :
    (ofInt n).inUnits? = some (n * unitsPerOne) := by
  obtain ⟨magnitude, hfinite, hvalue, hunits⟩ := ofInt_eq h
  rw [hvalue, inUnits?, hunits, Int.natCast_mul]
  generalize (unitsPerOne : Int) = unit
  simp only [decide_eq_true_eq]
  split
  · rw [Int.ofNat_natAbs_of_nonpos (by omega), Int.neg_mul, Int.neg_neg]
  · rw [Int.natAbs_of_nonneg (by omega)]

theorem less_ofInt {m n : Int} (hm : m.natAbs < 2 ^ 53) (hn : n.natAbs < 2 ^ 53) (h : m < n) :
    (ofInt m).Less (ofInt n) := by
  have hpositive : (0 : Int) < unitsPerOne := Int.natCast_pos.mpr unitsPerOne_pos
  exact ⟨_, _, inUnits?_ofInt hm, inUnits?_ofInt hn, Int.mul_lt_mul_of_pos_right h hpositive⟩

section Clamped

variable (greatest : Nat)

theorem toNatClamped_finite (magnitude : Fin finiteCount) :
    (finite false magnitude).toNatClamped greatest = min greatest (wholePart magnitude) := rfl

theorem toNatClamped_le (x : Binary64) : x.toNatClamped greatest ≤ greatest := by
  cases x with
  | finite negative magnitude =>
      cases negative with
      | false => exact Nat.min_le_left greatest (wholePart magnitude)
      | true => exact Nat.zero_le greatest
  | infinite negative =>
      cases negative with
      | false => exact Nat.le_refl greatest
      | true => exact Nat.zero_le greatest
  | notANumber => exact Nat.zero_le greatest

theorem toNatClamped_ofNat {n : Nat} (h : n < 2 ^ 53) :
    (ofNat n).toNatClamped greatest = min greatest n := by
  have habs : (n : Int).natAbs < 2 ^ 53 := by rwa [Int.natAbs_natCast]
  obtain ⟨magnitude, hfinite, hvalue, hunits⟩ := ofInt_eq habs
  have hsign : decide ((n : Int) < 0) = false := decide_eq_false (by omega)
  rw [ofNat, hvalue, hsign, toNatClamped_finite, wholePart, hunits, Int.natAbs_natCast,
    Nat.mul_div_cancel _ unitsPerOne_pos]

theorem toNatClamped_negative {x : Binary64} {magnitude : Fin finiteCount}
    (h : x = finite true magnitude) :
    x.toNatClamped greatest = 0 := by
  rw [h]
  rfl

/-- A whole number of more bits may be rounded, but not to one of fewer bits. -/
theorem le_toNatClamped_ofNat {n : Nat} (h : 2 ^ 53 ≤ n) :
    min greatest (2 ^ 53) ≤ (ofNat n).toNatClamped greatest := by
  obtain ⟨spacing, hspacing⟩ : ∃ spacing, 1074 = spacing - 1 ∧ 1 ≤ spacing := ⟨1075, by decide⟩
  have hunit : 2 ^ (52 + spacing) = 2 ^ 53 * unitsPerOne := by
    rw [unitsPerOne, hspacing.1, Nat.one_shiftLeft]
    exact two_pow_eq (by omega)
  have hmany : 2 ^ (52 + spacing) * 1 ≤ n * unitsPerOne := by
    rw [Nat.mul_one, hunit]
    exact Nat.mul_le_mul_right _ h
  have hnearest := le_nearest Nat.one_pos hmany
  have hsign : decide ((n : Int) < 0) = false := decide_eq_false (by omega)
  rw [ofNat, ofInt, hsign, Int.natAbs_natCast]
  by_cases hfinite : nearest n 1 < finiteCount
  · rw [ofRatio_eq rfl hfinite, toNatClamped_finite]
    refine Nat.le_min.mpr ⟨Nat.min_le_left _ _, Nat.le_trans (Nat.min_le_right _ _) ?_⟩
    rw [wholePart, Nat.le_div_iff_mul_le unitsPerOne_pos, ← hunit]
    exact le_units hnearest
  · rw [ofRatio, dif_neg hfinite]
    exact Nat.min_le_left _ _

end Clamped

end ChartBoard.Binary64
