import ChartBoard.Text.Blank

/-!
Whole numbers as text: decimal digits with an optional sign. A literal that does
not fit its type is no literal at all.
-/

namespace ChartBoard.Text

/-- The digit's value; only the ten decimal digits are asked for. -/
def digitValue (c : Char) : Nat := c.toNat - '0'.toNat

/-- The number that a list of decimal digits writes, most significant first. -/
def ofDigits (digits : List Char) : Nat :=
  digits.foldl (fun value digit => 10 * value + digitValue digit) 0

/-- The digits of a number, most significant first; zero has one digit. -/
def toDigits (n : Nat) : List Char := Nat.toDigits 10 n

/-- One or more decimal digits and nothing else. -/
def digits? (text : List Char) : Option Nat :=
  if !text.isEmpty && text.all Char.isDigit then some (ofDigits text) else none

/-- A number below `bound`, with an optional plus sign. -/
def readNat? (bound : Nat) (text : List Char) : Option Nat :=
  (digits? (match text with
    | '+' :: rest => rest
    | rest => rest)).filter fun n => n < bound

/-- A number from `-bound` to `bound - 1`, with an optional sign. -/
def readInt? (bound : Nat) (text : List Char) : Option Int :=
  match text with
  | '-' :: rest => ((digits? rest).filter fun n => n ≤ bound).map fun n : Nat => -(n : Int)
  | rest => (readNat? bound rest).map fun n : Nat => (n : Int)

/-- One more than the largest unsigned word of each width in use. -/
def word16 : Nat := 1 <<< 16

def word32 : Nat := 1 <<< 32

def word64 : Nat := 1 <<< 64

end ChartBoard.Text
