import ChartBoard.Number.Shortest

/-!
Numbers laid out as text. What one kind of output decides about its numbers is one
record; the digits are the fewest that read back.
-/

namespace ChartBoard

/-- The decisions of one kind of output about its numbers. -/
structure NumberLayout where
  /-- Numbers whose first digit stands at one of these powers of ten are written
  without exponent; with no bounds, all are. -/
  plainBetween : Option (Int × Int)
  /-- Whether a whole number ends in `.0`. -/
  pointZero : Bool
  tie : Tie
  infinity : String
  notANumber : String
  /-- Whether the text of infinity has a sign. -/
  signedInfinity : Bool

namespace NumberLayout

/-- Plain decimals of any length: values of attributes and the lines of a client.
No exponent is ever written, and a whole number has no point. -/
def line : NumberLayout where
  plainBetween := none
  pointZero := false
  tie := .up
  infinity := "inf"
  notANumber := "NaN"
  signedInfinity := true

/-- Numbers of a JSON text. Whole numbers keep a point, numbers from `10 ^ 16`
and below `10 ^ (-5)` have an exponent, and what is not finite is `null`. -/
def json : NumberLayout where
  plainBetween := some (-5, 15)
  pointZero := true
  tie := .toEven
  infinity := "null"
  notANumber := "null"
  signedInfinity := false

/-- Digits times a power of ten, written with a point where it falls. -/
def plain (pointZero : Bool) (digits : List Char) (exponent : Int) : List Char :=
  if 0 ≤ exponent then
    digits ++ List.replicate exponent.toNat '0' ++ (if pointZero then ".0".toList else [])
  else
    let places := (-exponent).toNat
    if places < digits.length then
      digits.take (digits.length - places) ++ '.' :: digits.drop (digits.length - places)
    else
      '0' :: '.' :: List.replicate (places - digits.length) '0' ++ digits

/-- Digits with a point after the first and the power of ten of the first, always
with a sign. -/
def scientific (digits : List Char) (leading : Int) : List Char :=
  let fraction := match digits.drop 1 with
    | [] => []
    | more => '.' :: more
  let sign := if leading < 0 then '-' else '+'
  digits.take 1 ++ fraction ++ 'e' :: sign :: Text.toDigits leading.natAbs

/-- A decimal without sign. -/
def decimal (layout : NumberLayout) (d : Decimal) : List Char :=
  let digits := Text.toDigits d.coefficient
  let leading := d.exponent + digits.length - 1
  match layout.plainBetween with
  | none => plain layout.pointZero digits d.exponent
  | some (least, greatest) =>
      if least ≤ leading && leading ≤ greatest then
        plain layout.pointZero digits d.exponent
      else
        scientific digits leading

def signed (negative : Bool) (text : List Char) : List Char :=
  if negative then '-' :: text else text

/-- The text of a number. -/
def write (layout : NumberLayout) : Binary64 → List Char
  | .finite negative magnitude =>
      signed negative (layout.decimal (Shortest.decimal layout.tie magnitude))
  | .infinite negative => signed (layout.signedInfinity && negative) layout.infinity.toList
  | .notANumber => layout.notANumber.toList

end NumberLayout

namespace Binary64

/-- The text of a number in a line of the protocol. -/
def text (x : Binary64) : String := String.ofList (NumberLayout.line.write x)

end Binary64

end ChartBoard
