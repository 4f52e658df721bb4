/-!
Binary floating-point numbers of 64 bits, without arithmetic of the machine. A
finite number is a sign and a magnitude; the magnitudes are counted from zero
upwards, so the number after magnitude `n` is magnitude `n + 1`, and every
magnitude is a whole multiple of the least positive one.
-/

namespace ChartBoard

/-- There are this many finite magnitudes: 2047 exponents with 52 bits each. -/
def Binary64.finiteCount : Nat := 2047 <<< 52

/-- A 64-bit number. One value stands for everything that is not a number. -/
inductive Binary64 where
  | finite (negative : Bool) (magnitude : Fin Binary64.finiteCount)
  | infinite (negative : Bool)
  | notANumber
deriving DecidableEq

namespace Binary64

def zero : Binary64 := .finite false ⟨0, by decide⟩

instance : Inhabited Binary64 := ⟨zero⟩

def isFinite : Binary64 → Bool
  | finite _ _ => true
  | _ => false

/-- How many times the least positive number a magnitude is. Below `2 ^ 53` the
magnitudes are equally spaced; above, the spacing doubles with each further
exponent. -/
def units (magnitude : Nat) : Nat :=
  if magnitude < 1 <<< 52 then
    magnitude
  else
    ((1 <<< 52) + magnitude % (1 <<< 52)) <<< (magnitude / (1 <<< 52) - 1)

/-- One is this many times the least positive number. -/
def unitsPerOne : Nat := 1 <<< 1074

/-- The quotient rounded to the nearest whole number, a tie to the even one. -/
def roundQuotient (num den : Nat) : Nat :=
  let quotient := num / den
  let rest := 2 * (num % den)
  if den < rest || (den == rest && quotient % 2 == 1) then
    quotient + 1
  else
    quotient

/-- The magnitude nearest to `num / den`, a tie to the even one, where the
magnitudes go on beyond the finite ones. Dividing by `2 ^ shift` leaves at most
53 bits, and a magnitude is even when these bits are. -/
def nearest (num den : Nat) : Nat :=
  let scaled := num * unitsPerOne
  let shift := Nat.log2 (scaled / den) - 52
  roundQuotient scaled (den <<< shift) + (shift <<< 52)

/-- The number nearest to `num / den` with the given sign. -/
def ofRatio (negative : Bool) (num den : Nat) : Binary64 :=
  if h : nearest num den < finiteCount then
    .finite negative ⟨nearest num den, h⟩
  else
    .infinite negative

/-- The number nearest to a whole number. -/
def ofInt (n : Int) : Binary64 := ofRatio (decide (n < 0)) n.natAbs 1

def ofNat (n : Nat) : Binary64 := ofInt n

/-- The whole part, without sign, of a magnitude. -/
def wholePart (magnitude : Nat) : Nat := units magnitude / unitsPerOne

/-- The number cut to a whole one and moved into the range from zero to
`greatest`; what is not a number becomes zero. -/
def toNatClamped (greatest : Nat) : Binary64 → Nat
  | finite false magnitude => min greatest (wholePart magnitude)
  | infinite false => greatest
  | _ => 0

/-- The 64 bits of the interchange format: sign, eleven bits of exponent, 52 bits
of fraction. The magnitudes are numbered so that their count is these bits. -/
def toBits : Binary64 → Nat
  | finite negative magnitude => (if negative then 1 <<< 63 else 0) + magnitude
  | infinite negative => (if negative then 1 <<< 63 else 0) + finiteCount
  | notANumber => finiteCount + (1 <<< 51)

/-- The number of 64 bits. -/
def ofBits (bits : UInt64) : Binary64 :=
  let negative := decide (1 <<< 63 ≤ bits.toNat)
  let magnitude := bits.toNat % (1 <<< 63)
  if h : magnitude < finiteCount then
    .finite negative ⟨magnitude, h⟩
  else if magnitude = finiteCount then
    .infinite negative
  else
    .notANumber

end Binary64

end ChartBoard
