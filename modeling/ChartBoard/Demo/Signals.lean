import ChartBoard.Demo.Basic

/-!
Data for the demo: the sine by its series, and noise from a simple generator. The demo draws
whatever data it is given; these vary in a way that is pleasant to look at.
-/

namespace ChartBoard.Signals

/-- One in fixed point, with forty places. -/
def one : Nat := Nat.pow 10 40

/-- Half a turn in fixed point. -/
def halfTurn : Nat := 31415926535897932384626433832795028841972

/-- So many terms of the series of the sine at an angle, from a term with the given power on. -/
def series (angle : Int) : (count power : Nat) → (term : Int) → Int
  | 0, _, _ => 0
  | count + 1, power, term =>
      let next := -(term * angle * angle) / (one * one * ((power + 1) * (power + 2)) : Nat)
      term + series angle count (power + 2) next

/-- The sine of a number, by its rest after whole turns. An infinite number has none. -/
def sineSeries : Binary64 → Binary64
  | .finite negative magnitude =>
      let units := Binary64.signed negative (Binary64.units magnitude)
      let angle := units * (one : Int) / (Binary64.unitsPerOne : Int)
      let rest := angle.bmod (2 * halfTurn)
      let sum := series rest 40 1 rest
      .ofRatio (if sum = 0 then negative else decide (sum < 0)) (min sum.natAbs one) one
  | _ => .notANumber

/-- The state of the noise after another step of a linear congruential generator. -/
def scramble (state : UInt64) : UInt64 := state * 6364136223846793005 + 1442695040888963407

/-- The steps of the noise from one whole number to the next. -/
def stepsPerOne : Nat := 1 <<< 53

/-- A number of steps less than one, which depends on the seed, the trace and the sample. -/
def steps (seed trace sample : Nat) : Nat :=
  let state := scramble (scramble (scramble (UInt64.ofNat seed) + UInt64.ofNat trace) +
    UInt64.ofNat sample)
  state.toNat / 2048

/-- Noise between two bounds. -/
def noiseBetween (low high : Int) (seed trace sample : Nat) : Binary64 :=
  let value := low * stepsPerOne + (high - low) * steps seed trace sample
  .ofRatio (decide (value < 0)) value.natAbs stepsPerOne

/-- The signals of a seed. The moments begin at `start` and are ten milliseconds
apart. -/
def ofSeed (seed : Nat) (start : Timestamp) : Signals where
  sin := sineSeries
  noise := noiseBetween 0 100 seed 1
  moment sample := (start.later? (10 * sample)).getD start
  signedNoise := noiseBetween (-1) 1 seed 2
  lateNoise := noiseBetween 0 100 seed 3
  load round bar := noiseBetween 0 10000 seed 4 (Demo.barCount * round + bar)
  speed := noiseBetween 0 200 seed 5
  rpm := noiseBetween 0 8000 seed 6

end ChartBoard.Signals
