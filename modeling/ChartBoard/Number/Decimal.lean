import ChartBoard.Number.Binary64
import ChartBoard.Text.Whole

/-!
Decimal numbers as text, read to the nearest 64-bit number. Digits with an
optional point and an optional exponent are read; so are the words for what is
infinite and for what is no number. Any number of digits counts.
-/

namespace ChartBoard

open Text

/-- The number `coefficient * 10 ^ exponent`. -/
structure Decimal where
  coefficient : Nat
  exponent : Int
deriving DecidableEq, Repr

namespace Decimal

/-- Numerator and denominator of a decimal. -/
def ratio (d : Decimal) : Nat × Nat :=
  (d.coefficient * Nat.pow 10 d.exponent.toNat, Nat.pow 10 (-d.exponent).toNat)

/-- The nearest 64-bit number with the given sign. A decimal far outside the
range of magnitudes is decided by its number of digits, before any power of ten
is computed: `10 ^ 310` is beyond the largest magnitude and `10 ^ (-330)` is less
than half the least. -/
def toBinary64 (negative : Bool) (d : Decimal) : Binary64 :=
  let scale := (toDigits d.coefficient).length + d.exponent
  if d.coefficient = 0 || scale < -330 then
    Binary64.ofRatio negative 0 1
  else if 311 < scale then
    .infinite negative
  else
    Binary64.ofRatio negative d.ratio.1 d.ratio.2

end Decimal

/-- A sign in front of a number, if there is one, and what follows it. -/
def readSign : List Char → Bool × List Char
  | '-' :: text => (true, text)
  | '+' :: text => (false, text)
  | text => (false, text)

/-- A signed exponent of at least one digit, up to the end of the text. -/
def readExponent? (text : List Char) : Option Int :=
  let (negative, text) := readSign text
  (digits? text).map fun n => if negative then -(n : Int) else n

namespace Decimal

/-- Digits, of which some may follow a point, and an exponent marked by `e` or
`E`. There is at least one digit, before or after the point. -/
def read? (text : List Char) : Option Decimal :=
  let whole := text.takeWhile Char.isDigit
  let afterWhole := text.dropWhile Char.isDigit
  let (fraction, rest) := match afterWhole with
    | '.' :: more => (more.takeWhile Char.isDigit, more.dropWhile Char.isDigit)
    | more => ([], more)
  let places : Int := fraction.length
  if whole.isEmpty && fraction.isEmpty then
    none
  else
    let coefficient := ofDigits (whole ++ fraction)
    match rest with
    | [] => some ⟨coefficient, -places⟩
    | mark :: exponent =>
        if mark == 'e' || mark == 'E' then
          (readExponent? exponent).map fun power => ⟨coefficient, power - places⟩
        else
          none

end Decimal

namespace Binary64

/-- The words for an infinite number, in lower case. -/
def infinityWords : List (List Char) := ["inf".toList, "infinity".toList]

def notANumberWord : List Char := "nan".toList

/-- A number as text: a sign, then a decimal or, in any case, one of the words
for what is infinite or no number. -/
def read? (text : List Char) : Option Binary64 :=
  let (negative, body) := readSign text
  let word := body.map Char.toLower
  if infinityWords.contains word then
    some (.infinite negative)
  else if word == notANumberWord then
    some .notANumber
  else
    (Decimal.read? body).map fun d => d.toBinary64 negative

end Binary64

end ChartBoard
