import ChartBoard.Chart.Change

/-!
Traces over time. Points are kept in the order of their times, at most one for each
millisecond; a second value at the same millisecond replaces the first. Points that
are too old beside the newest one are dropped. Ages and the times that they lead back
to are counted in milliseconds with 64 bits; what lies beyond is cut to the last number
there is.
-/

namespace ChartBoard

/-- A value at a time in milliseconds. -/
structure TimedValue where
  time : Int
  value : Binary64
deriving DecidableEq

namespace TimedValue

/-- The point shown, whose x is the time as a number. -/
def point (v : TimedValue) : Point := ⟨.ofInt v.time, v.value⟩

end TimedValue

structure TimeTrace where
  values : List TimedValue := []
  /-- The age in milliseconds beyond which values are dropped; zero keeps all. -/
  maxAge : Nat
deriving DecidableEq

namespace TimeTrace

def earlier (time : Int) (values : List TimedValue) : List TimedValue :=
  values.takeWhile fun v => v.time < time

def notEarlier (time : Int) (values : List TimedValue) : List TimedValue :=
  values.dropWhile fun v => v.time < time

/-- Whether there is a value at this very time. -/
def hasTime (time : Int) (values : List TimedValue) : Bool :=
  match notEarlier time values with
  | v :: _ => v.time == time
  | [] => false

/-- Put a value where its time belongs. -/
def place (v : TimedValue) (values : List TimedValue) : List TimedValue :=
  let later := notEarlier v.time values
  earlier v.time values ++ v :: (if hasTime v.time values then later.drop 1 else later)

/-- The edit that placing a value makes to the points shown. -/
def placeEdit (v : TimedValue) (values : List TimedValue) : Edit :=
  let position := (earlier v.time values).length
  if hasTime v.time values then
    .setPoint position v.point
  else
    .insertPoint position v.point

def greatestAge : Nat := (1 <<< 63) - 1

def earliestTime : Int := -(greatestAge : Int) - 1

/-- The age, in milliseconds, of so many seconds. -/
def ageLimit (seconds : Nat) : Nat := min greatestAge (1000 * min greatestAge seconds)

/-- The earliest time that is not too old beside the newest one. -/
def cutoff (maxAge : Nat) (newest : Int) : Int := max earliestTime (newest - maxAge)

/-- The number of values that are too old beside the last one. -/
def staleCount (maxAge : Nat) (values : List TimedValue) : Nat :=
  match values.getLast? with
  | none => 0
  | some newest =>
      if maxAge = 0 then 0 else (earlier (cutoff maxAge newest.time) values).length

/-- Place a value and drop those that have become too old. -/
def insert (v : TimedValue) (trace : TimeTrace) : TimeTrace :=
  let values := place v trace.values
  { trace with values := values.drop (staleCount trace.maxAge values) }

/-- The edits that an insertion makes to the points shown. -/
def insertEdits (v : TimedValue) (trace : TimeTrace) : List Edit :=
  let stale := staleCount trace.maxAge (place v trace.values)
  placeEdit v trace.values :: (if stale = 0 then [] else [.dropOldest stale])

end TimeTrace

end ChartBoard
