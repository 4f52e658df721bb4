import ChartBoard.Demo.Signals
import ChartBoard.Proofs.Calendar.DayOrder
import ChartBoard.Proofs.Calendar.TimestampGrammar
import ChartBoard.Proofs.Number.Arithmetic

/-!
The data of the demo are finite. Every argument that the demo gives to the sine is bounded by a
power of two, as long as samples are counted with 64 bits, and the sine of a finite number is finite
(`Signals.Writable.sine`, `Signals.Writable.figure`). The series of the sine and the noise of a seed
are data of this kind (`Signals.writable_ofSeed`).
-/

namespace ChartBoard

open Text Binary64

/-- Data that can be sent: finite noise, finite sines of finite numbers, and moments from the year
zero on. -/
structure Signals.Writable (signals : Signals) : Prop where
  sin : ∀ x, x.isFinite = true → (signals.sin x).isFinite = true
  noise : ∀ sample, (signals.noise sample).isFinite = true
  moment : ∀ sample, 0 ≤ (signals.moment sample).year
  signedNoise : ∀ sample, (signals.signedNoise sample).isFinite = true
  lateNoise : ∀ sample, (signals.lateNoise sample).isFinite = true
  load : ∀ round bar, (signals.load round bar).isFinite = true
  speed : ∀ sample, (signals.speed sample).isFinite = true
  rpm : ∀ sample, (signals.rpm sample).isFinite = true

namespace Signals

section Waves

theorem atMost_tenth : AtMost 0 tenth := atMost_ofRatio (by decide) (by decide) (by decide)

theorem atMost_pi : AtMost 2 pi := atMost_ofRatio (by decide) (by decide) (by decide)

variable {phase points sample : Nat}

theorem atMost_sample (h : sample < word64) : AtMost 64 (.ofNat sample) := by
  rw [word64, Nat.one_shiftLeft] at h
  exact atMost_ofNat (by decide) (Nat.le_of_lt h)

theorem atMost_shift (h : phase < Demo.phaseCount) : AtMost 4 (shift phase) := by
  have hphase : AtMost 2 (.ofNat phase) := atMost_ofNat (by decide) (Nat.le_of_lt h)
  have hfour : AtLeastOne (.ofNat 4) := atLeastOne_ofNat (by decide) (by decide +kernel)
  exact (hphase.mul atMost_pi (by decide)).div hfour (by decide)

theorem atMost_turn (hsample : sample < points) (hpoints : points < word64) :
    AtMost 67 (turn points sample) := by
  have htwo : AtMost 1 (.ofNat 2) := atMost_ofNat (by decide) (by decide)
  have hwhole : AtLeastOne (.ofNat points) :=
    atLeastOne_ofNat (Nat.one_le_of_lt hsample) (Nat.lt_trans hpoints (by decide +kernel))
  have hnumber := atMost_sample (Nat.lt_trans hsample hpoints)
  exact ((htwo.mul atMost_pi (by decide)).mul hnumber (by decide)).div hwhole (by decide)

variable {signals : Signals} (h : signals.Writable)

include h

theorem Writable.sine (hsample : sample < word64) : (signals.sine sample).isFinite = true :=
  h.sin _ ((atMost_sample hsample).mul atMost_tenth (by decide)).isFinite

theorem Writable.figure (hphase : phase < Demo.phaseCount) (hsample : sample < points)
    (hpoints : points < word64) :
    (signals.figure phase points sample).x.isFinite = true ∧
      (signals.figure phase points sample).y.isFinite = true := by
  have hturn := atMost_turn hsample hpoints
  have htwo : AtMost 1 (.ofNat 2) := atMost_ofNat (by decide) (by decide)
  have hthree : AtMost 2 (.ofNat 3) := atMost_ofNat (by decide) (by decide)
  have hshift : AtMost 69 (shift phase) := (atMost_shift hphase).mono (by decide)
  exact ⟨h.sin _ ((hthree.mul hturn (by decide)).add hshift (by decide)).isFinite,
    h.sin _ (htwo.mul hturn (by decide)).isFinite⟩

end Waves

section Seed

theorem yearOfDay_nonneg {day : Int} (h : 0 ≤ day) : 0 ≤ Calendar.yearOfDay day := by
  unfold Calendar.yearOfDay Calendar.daysBeforeYear
  dsimp only
  split
  · omega
  · split <;> omega

/-- No year before zero follows on a moment from 1970 on. -/
theorem year_later {t after : Timestamp} (h : 1970 ≤ t.year) {milliseconds : Nat}
    (hlater : t.later? milliseconds = some after) : 0 ≤ after.year := by
  have hdate := t.isDate
  simp only [Calendar.isDate, Bool.and_eq_true, decide_eq_true_eq] at hdate
  have hday : 0 ≤ Calendar.dayNumber t.year t.month t.day := by
    have hyears := Calendar.daysBeforeYear_mono h
    unfold Calendar.dayNumber
    omega
  have hepoch : 0 ≤ t.epochMilliseconds := by
    unfold Timestamp.epochMilliseconds
    dsimp only
    omega
  obtain ⟨⟨hyear, -⟩, -⟩ := Timestamp.ofFields?_eq_some_iff.mp hlater
  rw [hyear]
  exact yearOfDay_nonneg (by omega)

theorem isFinite_sineSeries (x : Binary64) (h : x.isFinite = true) :
    (sineSeries x).isFinite = true := by
  cases x with
  | finite negative magnitude =>
      have hone : 0 < one := Nat.pow_pos (by decide)
      exact (atMost_ofRatio hone (Nat.zero_le _)
        (by rw [Nat.pow_zero, Nat.one_mul]; exact Nat.min_le_right _ _)).isFinite
  | infinite | notANumber => cases h

example : sineSeries (.ofNat 1) = .ofBits 0x3FEAED548F090CEE := by decide +kernel

theorem steps_lt (seed trace sample : Nat) : steps seed trace sample < stepsPerOne := by
  unfold steps stepsPerOne
  generalize scramble _ = state
  have hword := state.toNat_lt
  dsimp only
  omega

theorem isFinite_noiseBetween {low high : Int} (hlow : low.natAbs ≤ 2 ^ 14)
    (hhigh : high.natAbs ≤ 2 ^ 14) (seed trace sample : Nat) :
    (noiseBetween low high seed trace sample).isFinite = true := by
  have hsteps := Nat.le_of_lt (steps_lt seed trace sample)
  have hpositive : 0 < stepsPerOne := by decide
  refine (atMost_ofRatio (e := 16) hpositive (by decide) ?_).isFinite
  generalize steps seed trace sample = number at hsteps
  generalize stepsPerOne = whole at hsteps
  have hwidth : (high - low).natAbs ≤ 2 ^ 15 := by omega
  calc (low * whole + (high - low) * number).natAbs
      ≤ (low * whole).natAbs + ((high - low) * number).natAbs := Int.natAbs_add_le _ _
    _ = low.natAbs * whole + (high - low).natAbs * number := by
        rw [Int.natAbs_mul, Int.natAbs_mul, Int.natAbs_natCast, Int.natAbs_natCast]
    _ ≤ 2 ^ 14 * whole + 2 ^ 15 * whole :=
        Nat.add_le_add (Nat.mul_le_mul_right _ hlow) (Nat.mul_le_mul hwidth hsteps)
    _ ≤ 2 ^ 16 * whole := by omega

/-- The signals of a seed can be sent, if they begin from 1970 on. -/
theorem writable_ofSeed (seed : Nat) {start : Timestamp} (h : 1970 ≤ start.year) :
    (ofSeed seed start).Writable := by
  have hmoment (sample : Nat) : 0 ≤ ((start.later? (10 * sample)).getD start).year := by
    cases hlater : start.later? (10 * sample) with
    | none => exact Int.le_trans (by decide) h
    | some after => exact year_later h hlater
  rw [ofSeed]
  constructor <;> dsimp only
  case sin => exact isFinite_sineSeries
  case moment => exact hmoment
  case load => exact fun _ _ => isFinite_noiseBetween (by decide) (by decide) seed 4 _
  all_goals exact isFinite_noiseBetween (by decide) (by decide) seed _

end Seed

end Signals

end ChartBoard
