import ChartBoard.Number.Binary64

/-!
Sums, products and quotients of 64-bit numbers. What comes of finite numbers is the number nearest
to the exact result. Infinite numbers go on being infinite where that makes sense, and elsewhere
there is no number.
-/

namespace ChartBoard.Binary64

/-- A whole number with a sign. -/
def signed (negative : Bool) (n : Nat) : Int := if negative then -(n : Int) else n

/-- The sum. A sum of zero is negative only if both parts are negative zeros. -/
def add : Binary64 → Binary64 → Binary64
  | finite negative magnitude, finite negative' magnitude' =>
      let sum := signed negative (units magnitude) + signed negative' (units magnitude')
      ofRatio (if sum = 0 then negative && negative' else decide (sum < 0)) sum.natAbs unitsPerOne
  | infinite negative, infinite negative' =>
      if negative = negative' then infinite negative else notANumber
  | infinite negative, finite _ _ => infinite negative
  | finite _ _, infinite negative => infinite negative
  | _, _ => notANumber

/-- The product. An infinite number has none with zero. -/
def mul : Binary64 → Binary64 → Binary64
  | finite negative magnitude, finite negative' magnitude' =>
      ofRatio (negative ^^ negative') (units magnitude * units magnitude')
        (unitsPerOne * unitsPerOne)
  | infinite negative, infinite negative' => infinite (negative ^^ negative')
  | infinite negative, finite negative' magnitude =>
      if magnitude.val = 0 then notANumber else infinite (negative ^^ negative')
  | finite negative magnitude, infinite negative' =>
      if magnitude.val = 0 then notANumber else infinite (negative ^^ negative')
  | _, _ => notANumber

/-- The quotient. Zero has none by zero, nor an infinite number by an infinite one. -/
def div : Binary64 → Binary64 → Binary64
  | finite negative magnitude, finite negative' magnitude' =>
      if magnitude'.val ≠ 0 then
        ofRatio (negative ^^ negative') (units magnitude) (units magnitude')
      else if magnitude.val ≠ 0 then
        infinite (negative ^^ negative')
      else
        notANumber
  | infinite negative, finite negative' _ => infinite (negative ^^ negative')
  | finite negative _, infinite negative' => ofRatio (negative ^^ negative') 0 1
  | _, _ => notANumber

/-- The number nearest to the ratio of a circle to its diameter. -/
def pi : Binary64 := ofRatio false 314159265358979323846264338327950288 (Nat.pow 10 35)

instance : Add Binary64 := ⟨add⟩

instance : Mul Binary64 := ⟨mul⟩

instance : Div Binary64 := ⟨div⟩

section Finite

variable (negative negative' : Bool) (magnitude magnitude' : Fin finiteCount)

theorem finite_add_finite : ∃ negative'', finite negative magnitude + finite negative' magnitude' =
    ofRatio negative''
      (signed negative (units magnitude) + signed negative' (units magnitude')).natAbs
      unitsPerOne := by
  change ∃ negative'', add _ _ = _
  rw [add]
  exact ⟨_, rfl⟩

theorem finite_mul_finite : finite negative magnitude * finite negative' magnitude' =
    ofRatio (negative ^^ negative') (units magnitude * units magnitude')
      (unitsPerOne * unitsPerOne) := by
  change mul _ _ = _
  rw [mul]

theorem finite_div_finite (h : magnitude'.val ≠ 0) :
    finite negative magnitude / finite negative' magnitude' =
      ofRatio (negative ^^ negative') (units magnitude) (units magnitude') := by
  change div _ _ = _
  rw [div, if_pos h]

end Finite

end ChartBoard.Binary64
