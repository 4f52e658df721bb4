import ChartBoard.Number.Layout
import ChartBoard.Proofs.Number.DecimalText
import ChartBoard.Proofs.Number.DecimalValue

/-!
Numbers are read back. The decimal chosen for a magnitude has that magnitude as its nearest
(`Shortest.nearest_decimal`), whichever of its candidates was chosen; laid out without
exponent, it is digits with at most one point between them; and so the text of a finite
number in a line is read as the very same number, the sign of zero included.
-/

namespace ChartBoard

open Text

namespace Shortest

theorem nearest_dropZeros (fuel : Nat) (d : Decimal) : (dropZeros fuel d).nearest = d.nearest := by
  induction fuel generalizing d with
  | zero => rfl
  | succ fuel ih =>
      unfold dropZeros
      split
      · rename_i hzero
        have hlast : d.coefficient % 10 = 0 := by
          simp only [Bool.and_eq_true, beq_iff_eq] at hzero
          exact hzero.2
        have hcoefficient : d.coefficient / 10 * 10 ^ 1 = d.coefficient := by omega
        have hshift := Decimal.nearest_shift (d.coefficient / 10) 1 d.exponent
        rw [hcoefficient] at hshift
        rw [ih]
        exact hshift.symm
      · rfl

theorem nearest_of_neighbour? {tie : Tie} {magnitude : Nat} {exponent : Int} {d : Decimal}
    (h : neighbour? tie magnitude exponent = some d) : d.nearest = magnitude := by
  have hreads : readsBack magnitude d = true := List.find?_some h
  exact beq_iff_eq.mp hreads

/-- A decimal with as many places as one is doubled into units can be exact. -/
theorem nearest_of_exact {d : Decimal} {places magnitude : Nat}
    (hexponent : d.exponent = -(places : Int))
    (hcoefficient : d.coefficient * Binary64.unitsPerOne =
      Binary64.units magnitude * Nat.pow 10 places) :
    d.nearest = magnitude := by
  refine Binary64.nearest_of_units d.ratio_pos ?_
  have hwhole : d.exponent.toNat = 0 := by omega
  have hplaces : (-d.exponent).toNat = places := by omega
  rw [Decimal.ratio_eq]
  dsimp only
  rw [hwhole, hplaces, Nat.pow_zero, Nat.mul_one, hcoefficient, Nat.pow_eq]

theorem nearest_exact (magnitude : Nat) : (exact magnitude).nearest = magnitude := by
  have hpower : Nat.pow 5 1074 * Binary64.unitsPerOne = Nat.pow 10 1074 := by decide +kernel
  have hexponent : (exact magnitude).exponent = -((1074 : Nat) : Int) := rfl
  refine nearest_of_exact hexponent ?_
  unfold exact
  rw [Nat.mul_assoc, hpower]

/-- The shortest decimal of a magnitude reads back to it. -/
theorem nearest_decimal (tie : Tie) (magnitude : Nat) :
    (decimal tie magnitude).nearest = magnitude := by
  unfold decimal
  split
  · rename_i hzero
    rw [hzero]
    exact Decimal.nearest_of_coefficient_eq_zero rfl
  · dsimp only
    rw [nearest_dropZeros]
    cases hfound : (List.range mostDigits).findSome? fun (more : Nat) =>
        neighbour? tie magnitude (leading (Binary64.units magnitude) - (more : Int)) with
    | none => exact nearest_exact magnitude
    | some d =>
        obtain ⟨more, -, hneighbour⟩ := List.exists_of_findSome?_eq_some hfound
        exact nearest_of_neighbour? hneighbour

end Shortest

namespace Decimal

/-- Digits, with a point and more digits behind them if there are any. -/
def pointed (whole fraction : List Char) : List Char :=
  if fraction.isEmpty then whole else whole ++ '.' :: fraction

/-- Digits with at most one point between them are read as the number that all of them
write, with as many places as there are behind the point. -/
theorem read?_pointed {whole fraction : List Char} (hne : whole ≠ []) (hwhole : AllDigits whole)
    (hfraction : AllDigits fraction) :
    read? (pointed whole fraction) =
      some ⟨ofDigits (whole ++ fraction), -(fraction.length : Int)⟩ := by
  rw [read?_eq_some_iff, ofDigits_eq, ← Int.zero_sub]
  unfold pointed
  by_cases hempty : fraction = []
  · simpa [hempty] using Written.intro (.whole hne hwhole) .missing
  · have hsome : whole ++ fraction ≠ [] := List.append_ne_nil_of_left_ne_nil hne fraction
    simpa [hempty] using Written.intro (.pointed hsome hwhole hfraction) .missing

end Decimal

namespace NumberLayout

/-- A decimal without exponent, as it is laid out. -/
structure LaidOut (text : List Char) (d : Decimal) (whole fraction : List Char) : Prop where
  text_eq : text = Decimal.pointed whole fraction
  whole_ne_nil : whole ≠ []
  whole_digits : AllDigits whole
  fraction_digits : AllDigits fraction
  nearest_eq : Decimal.nearest ⟨ofDigits (whole ++ fraction), -(fraction.length : Int)⟩ = d.nearest

/-- Digits times a power of ten are laid out as digits with at most one point between them, which
have the same value. -/
theorem laidOut_plain (d : Decimal) :
    ∃ whole fraction,
      LaidOut (plain false (toDigits d.coefficient) d.exponent) d whole fraction := by
  obtain ⟨digits, hdigits⟩ : ∃ digits, digits = toDigits d.coefficient := ⟨_, rfl⟩
  have hall : AllDigits digits := hdigits ▸ allDigits_toDigits d.coefficient
  have hne : digits ≠ [] := hdigits ▸ toDigits_ne_nil d.coefficient
  have hvalue : ofDigits digits = d.coefficient := hdigits ▸ ofDigits_toDigits d.coefficient
  rw [← hdigits]
  unfold plain
  dsimp only
  by_cases hwhole : 0 ≤ d.exponent
  · rw [if_pos hwhole]
    refine ⟨digits ++ List.replicate d.exponent.toNat '0', [], ?_, ?_, ?_, allDigits_nil, ?_⟩
    · simp [Decimal.pointed]
    · simp [hne]
    · exact allDigits_append.mpr ⟨hall, allDigits_zeros _⟩
    · have hshift := Decimal.nearest_shift d.coefficient d.exponent.toNat 0
      have hexponent : 0 + (d.exponent.toNat : Int) = d.exponent := by omega
      rw [hexponent, Nat.mul_comm] at hshift
      rw [List.append_nil, ofDigits_append, ofDigits_zeros, hvalue, List.length_replicate]
      exact hshift
  · have hplaces : -((-d.exponent).toNat : Int) = d.exponent := by omega
    rw [if_neg hwhole]
    by_cases hpoint : (-d.exponent).toNat < digits.length
    · obtain ⟨before, hbefore⟩ : ∃ before, before = digits.length - (-d.exponent).toNat := ⟨_, rfl⟩
      rw [if_pos hpoint, ← hbefore]
      refine ⟨digits.take before, digits.drop before, ?_, ?_, ?_, ?_, ?_⟩
      · have hmore : digits.drop before ≠ [] := by
          rw [ne_eq, List.drop_eq_nil_iff]
          omega
        simp [Decimal.pointed, hmore]
      · have hfirst : before ≠ 0 := by omega
        simp [hfirst, hne]
      · exact fun c hc => hall c (List.mem_of_mem_take hc)
      · exact fun c hc => hall c (List.mem_of_mem_drop hc)
      · have hlength : digits.length - before = (-d.exponent).toNat := by omega
        rw [List.take_append_drop, hvalue, List.length_drop, hlength, hplaces]
    · obtain ⟨zeros, hzeros⟩ : ∃ zeros, zeros = (-d.exponent).toNat - digits.length := ⟨_, rfl⟩
      rw [if_neg hpoint, ← hzeros]
      refine ⟨['0'], List.replicate zeros '0' ++ digits, ?_, List.cons_ne_nil _ _, ?_, ?_, ?_⟩
      · simp [Decimal.pointed, hne]
      · exact allDigits_zeros 1
      · exact allDigits_append.mpr ⟨allDigits_zeros _, hall⟩
      · have hlength : zeros + digits.length = (-d.exponent).toNat := by omega
        have hzero : ofDigits (['0'] ++ List.replicate zeros '0') = 0 := ofDigits_zeros (zeros + 1)
        rw [← List.append_assoc, ofDigits_append, hzero, hvalue, List.length_append,
          List.length_replicate, hlength, hplaces, Nat.mul_zero, Nat.zero_add]

end NumberLayout

namespace Binary64

/-- What begins with a digit behind its sign is none of the words, but a decimal. -/
theorem read?_signed {negative : Bool} {c : Char} (h : c.isDigit = true) (text : List Char) :
    read? (NumberLayout.signed negative (c :: text)) =
      (Decimal.read? (c :: text)).map fun d => d.toBinary64 negative := by
  have hhead : ∃ d ∈ (c :: text).head?, d.isDigit = true ∨ d = '.' := ⟨c, rfl, .inl h⟩
  cases negative with
  | true => exact read?_decimal .minus hhead
  | false => exact read?_decimal .missing hhead

/-- The text of a finite number, taken apart. -/
theorem exists_text (negative : Bool) (magnitude : Fin finiteCount) :
    ∃ c text, (Binary64.finite negative magnitude).text.toList =
        NumberLayout.signed negative (c :: text) ∧ c.isDigit = true ∧
      (∀ later ∈ text, later.isDigit = true ∨ later = '.') ∧
      (Decimal.read? (c :: text)).map (·.toBinary64 negative) =
        some (.finite negative magnitude) := by
  obtain ⟨whole, fraction, h⟩ :=
    NumberLayout.laidOut_plain (Shortest.decimal NumberLayout.line.tie magnitude)
  obtain ⟨c, wholeRest, hwhole⟩ := List.exists_cons_of_ne_nil h.whole_ne_nil
  obtain ⟨text, htext⟩ : ∃ text, Decimal.pointed whole fraction = c :: text := by
    unfold Decimal.pointed
    split
    · exact ⟨wholeRest, hwhole⟩
    · exact ⟨wholeRest ++ '.' :: fraction, by rw [hwhole]; rfl⟩
  refine ⟨c, text, ?_, ?_, ?_, ?_⟩
  · rw [← htext, ← h.text_eq]
    exact String.toList_ofList
  · exact h.whole_digits c (hwhole ▸ List.mem_cons_self)
  · intro later hlater
    have hmem : later ∈ Decimal.pointed whole fraction := htext ▸ List.mem_cons_of_mem c hlater
    unfold Decimal.pointed at hmem
    split at hmem
    · exact .inl (h.whole_digits later hmem)
    · rcases List.mem_append.mp hmem with hmem | hmem
      · exact .inl (h.whole_digits later hmem)
      · rcases List.mem_cons.mp hmem with hpoint | hmem
        · exact .inr hpoint
        · exact .inl (h.fraction_digits later hmem)
  · rw [← htext, Decimal.read?_pointed h.whole_ne_nil h.whole_digits h.fraction_digits,
      Option.map_some]
    refine congrArg some (Decimal.toBinary64_of_nearest ?_ negative)
    rw [h.nearest_eq, Shortest.nearest_decimal]

/-- The text of a finite number is read as the number, zero with its sign. -/
theorem read?_text {x : Binary64} (h : x.isFinite = true) : read? x.text.toList = some x := by
  cases x with
  | finite negative magnitude =>
      obtain ⟨c, text, htext, hdigit, -, hread⟩ := exists_text negative magnitude
      rw [htext, read?_signed hdigit]
      exact hread
  | infinite | notANumber => cases h

/-- The characters of the texts of numbers besides the digits. -/
def otherCharacters : List Char := ['-', '.', 'i', 'n', 'f', 'N', 'a']

theorem digitsAnd_text (x : Binary64) : DigitsAnd otherCharacters x.text.toList := by
  cases x with
  | finite negative magnitude =>
      obtain ⟨c, text, htext, hdigit, hlater, -⟩ := exists_text negative magnitude
      have hbody : DigitsAnd otherCharacters (c :: text) := by
        refine List.forall_mem_cons.mpr ⟨.inl hdigit,
          fun later hmem => (hlater later hmem).imp id ?_⟩
        rintro rfl
        decide
      rw [htext]
      cases negative with
      | false => exact hbody
      | true => exact List.forall_mem_cons.mpr ⟨.inr (by decide), hbody⟩
  | infinite negative => cases negative <;> decide
  | notANumber => decide

theorem text_ne_nil (x : Binary64) : x.text.toList ≠ [] := by
  cases x with
  | finite negative magnitude =>
      obtain ⟨c, text, htext, -⟩ := exists_text negative magnitude
      rw [htext]
      cases negative <;> exact List.cons_ne_nil _ _
  | infinite negative => cases negative <;> decide
  | notANumber => decide

end Binary64

end ChartBoard
