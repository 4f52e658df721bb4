import ChartBoard.Number.Decimal

/-!
The fewest decimal digits that read back to a number. On the grid of the powers
of ten with one, two, three and more digits, the two neighbours of the number are
tried; the first grid with a neighbour that reads back wins, and of two that do
the nearer.
-/

namespace ChartBoard

/-- Which of two equally near neighbours is taken. -/
inductive Tie where
  | toEven
  | up
deriving DecidableEq, Repr

namespace Shortest

/-- Seventeen digits tell any two numbers apart. -/
def mostDigits : Nat := 17

/-- A power of ten that lifts the least positive number above one. -/
def lift : Nat := 324

/-- The exponent of the first digit of a magnitude above zero. -/
def leading (units : Nat) : Int :=
  (Text.toDigits (units * Nat.pow 10 lift / Binary64.unitsPerOne)).length - 1 - lift

/-- Whether a decimal reads back to the magnitude. -/
def readsBack (magnitude : Nat) (d : Decimal) : Bool :=
  Binary64.nearest d.ratio.1 d.ratio.2 == magnitude

/-- The neighbour of a magnitude on the grid of `10 ^ exponent` that reads back to
it: the nearer one, if both do. -/
def neighbour? (tie : Tie) (magnitude : Nat) (exponent : Int) : Option Decimal :=
  let num := Binary64.units magnitude * Nat.pow 10 (-exponent).toNat
  let den := Binary64.unitsPerOne * Nat.pow 10 exponent.toNat
  let below : Decimal := ⟨num / den, exponent⟩
  let above : Decimal := ⟨num / den + 1, exponent⟩
  let rest := 2 * (num % den)
  let nearerIsAbove : Bool := match tie with
    | .up => den ≤ rest
    | .toEven => den < rest || (den == rest && num / den % 2 == 1)
  let candidates := if nearerIsAbove then [above, below] else [below, above]
  candidates.find? (readsBack magnitude)

/-- The same decimal without zeros at the end of its coefficient, of which at most
`fuel` are dropped. -/
def dropZeros : (fuel : Nat) → Decimal → Decimal
  | 0, d => d
  | fuel + 1, d =>
      if d.coefficient != 0 && d.coefficient % 10 == 0 then
        dropZeros fuel ⟨d.coefficient / 10, d.exponent + 1⟩
      else
        d

/-- The exact decimal of a magnitude, which reads back in any case. -/
def exact (magnitude : Nat) : Decimal :=
  ⟨Binary64.units magnitude * Nat.pow 5 1074, -1074⟩

/-- The shortest decimal that reads back to a magnitude; zero is `0`. -/
def decimal (tie : Tie) (magnitude : Nat) : Decimal :=
  if magnitude = 0 then
    ⟨0, 0⟩
  else
    let first := leading (Binary64.units magnitude)
    let found := (List.range mostDigits).findSome? fun (more : Nat) =>
      neighbour? tie magnitude (first - (more : Int))
    let chosen := found.getD (exact magnitude)
    dropZeros (Text.toDigits chosen.coefficient).length chosen

end Shortest

end ChartBoard
