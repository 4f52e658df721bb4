import ChartBoard.Calendar.Timestamp

/-!
Clocks. A host counts the milliseconds at universal time, and its wall clocks show the time of a
zone, which is ahead of universal time by an offset. Where the clocks of a zone are set, a
wall-clock time may be shown twice or not at all.
-/

namespace ChartBoard

/-- How far wall clocks are ahead of universal time, by less than a day. -/
structure Offset where
  seconds : Int
  lessThanDay : seconds.natAbs < 86400

namespace Offset

def zero : Offset := ⟨0, by decide⟩

end Offset

/-- How often the wall clocks of a zone show a time, and the offsets at which they do. -/
inductive Occurrence where
  | once (offset : Offset)
  /-- The clocks are set back to the time. -/
  | twice (first second : Offset)
  /-- The clocks are set forward over the time. -/
  | never

/-- A zone, by the times that its wall clocks show. -/
abbrev Zone : Type := Timestamp → Occurrence

namespace Zone

/-- A zone whose clocks are never set. -/
def fixed (offset : Offset) : Zone := fun _ => .once offset

end Zone

namespace Clock

/-- What a host says when its clock is read. -/
structure Reading where
  /-- Milliseconds since the first of January 1970 at universal time. -/
  now : Int
  zone : Zone
  /-- The offset of the zone at this moment. -/
  offset : Offset

namespace Reading

/-- A reading on a host whose wall clocks show universal time. -/
def universal (now : Int) : Reading := ⟨now, .fixed .zero, .zero⟩

/-- A number alone is a reading at universal time. -/
instance (n : Nat) : OfNat Reading n := ⟨universal n⟩

/-- How far the wall clocks are ahead when they show a time. Of a time that they show twice the
first is meant; one that they never show goes by the offset of this moment. -/
def offsetAt (reading : Reading) (t : Timestamp) : Offset :=
  match reading.zone t with
  | .once offset => offset
  | .twice first _ => first
  | .never => reading.offset

/-- The milliseconds since the first of January 1970 at which the wall clocks show a time. -/
def instant (reading : Reading) (t : Timestamp) : Int :=
  t.epochMilliseconds - 1000 * (reading.offsetAt t).seconds

/-- Where the clocks are never set, all times are moved by the same offset. -/
theorem instant_fixed (reading : Reading) {offset : Offset} (h : reading.zone = .fixed offset)
    (t : Timestamp) : reading.instant t = t.epochMilliseconds - 1000 * offset.seconds := by
  rw [instant, offsetAt, h, Zone.fixed]

/-- At universal time no time is moved. -/
theorem instant_universal (now : Int) (t : Timestamp) :
    (universal now).instant t = t.epochMilliseconds := by
  rw [instant_fixed _ rfl, Offset.zero, Int.mul_zero, Int.sub_zero]

end Reading

end Clock

/-- Readings of a clock, one for each value of a line. -/
abbrev Clock : Type := Nat → Clock.Reading

end ChartBoard
