import ChartBoard.Calendar.Date
import ChartBoard.Text.Whole

/-!
Timestamps: a date and a time of day, written as seven numbers with semicolons
between them, `year;month;day;hour;minute;second;millisecond`.
-/

namespace ChartBoard

open Text

/-- A wall-clock time of a date that exists. -/
structure Timestamp where
  year : Int
  month : Nat
  day : Nat
  hour : Nat
  minute : Nat
  second : Nat
  nanosecond : Nat
  isDate : Calendar.isDate year month day = true
  isTime : Calendar.isTime hour minute second nanosecond = true
deriving DecidableEq

/-- Why a text is no timestamp. -/
inductive TimestampFault where
  | fieldCount (found : Nat)
  | notInteger (field : String)
  | yearRange
  | millisecondRange
  | noSuchTime
deriving DecidableEq, Repr

namespace TimestampFault

def reason : TimestampFault → String
  | fieldCount found => "expected 7 fields, found " ++ toString found
  | notInteger field => "'" ++ field ++ "' is not an integer"
  | yearRange => "year out of range"
  | millisecondRange => "millisecond must be 0 to 999"
  | noSuchTime => "no such date/time"

/-- What is said about a text that is no timestamp. -/
def message (text : String) (fault : TimestampFault) : String :=
  "Invalid timestamp '" ++ text ++ "': " ++ fault.reason

end TimestampFault

namespace Timestamp

/-- The time with the given fields, if there is one. -/
def ofFields? (year : Int) (month day hour minute second nanosecond : Nat) :
    Option Timestamp :=
  if hdate : Calendar.isDate year month day = true then
    if htime : Calendar.isTime hour minute second nanosecond = true then
      if Calendar.isLeapPlace second nanosecond then
        some ⟨year, month, day, hour, minute, second, nanosecond, hdate, htime⟩
      else
        none
    else
      none
  else
    none

/-- The whole milliseconds of the fraction, at most 999: the fraction of a leap
second is taken within that second. -/
def millisecond (t : Timestamp) : Nat := t.nanosecond / 1000000 % 1000

def separator : Char := ';'

def text (t : Timestamp) : String :=
  String.intercalate separator.toString
    [toString t.year, toString t.month, toString t.day, toString t.hour,
      toString t.minute, toString t.second, toString t.millisecond]

/-- Milliseconds since the first of January 1970 on a clock at universal time. -/
def epochMilliseconds (t : Timestamp) : Int :=
  let days := Calendar.dayNumber t.year t.month t.day
  let seconds := ((days * 24 + t.hour) * 60 + t.minute) * 60 + t.second
  seconds * 1000 + (t.nanosecond / 1000000 : Nat)

/-- The time so many milliseconds after the first of January 1970, if its date is
counted. -/
def ofEpochMilliseconds? (milliseconds : Int) : Option Timestamp :=
  let seconds := milliseconds / 1000
  let (year, month, day) := Calendar.dateOfDay (seconds / 86400)
  let ofDay := (seconds % 86400).toNat
  ofFields? year month day (ofDay / 3600) (ofDay / 60 % 60) (ofDay % 60)
    ((milliseconds % 1000).toNat * 1000000)

/-- The time so many milliseconds later, if its date is counted. -/
def later? (milliseconds : Nat) (t : Timestamp) : Option Timestamp :=
  ofEpochMilliseconds? (t.epochMilliseconds + milliseconds)

/-- A field is an unsigned 32-bit number, blanks around it allowed. -/
def readField (field : List Char) : Except TimestampFault Nat :=
  match readNat? word32 field with
  | some n => .ok n
  | none => .error (.notInteger (String.ofList field))

/-- The time that seven numbers stand for. -/
def ofNumbers : List Nat → Except TimestampFault Timestamp
  | [year, month, day, hour, minute, second, millisecond] =>
      if 1 <<< 31 ≤ year then
        .error .yearRange
      else if 999 < millisecond then
        .error .millisecondRange
      else
        match ofFields? year month day hour minute second (millisecond * 1000000) with
        | some t => .ok t
        | none => .error .noSuchTime
  | numbers => .error (.fieldCount numbers.length)

/-- Exactly seven fields are expected before any is read. -/
def read (text : List Char) : Except TimestampFault Timestamp :=
  let fields := (split (· == separator) text).map trim
  if fields.length = 7 then do
    let numbers ← fields.mapM readField
    ofNumbers numbers
  else
    .error (.fieldCount fields.length)

end Timestamp

end ChartBoard
