/-!
The proleptic Gregorian calendar: leap years, lengths of months and the day number
of a date, counted from the first of January 1970.
-/

namespace ChartBoard.Calendar

def isLeapYear (year : Int) : Bool :=
  year % 4 == 0 && (year % 100 != 0 || year % 400 == 0)

/-- Zero for a month that does not exist. -/
def daysInMonth (year : Int) : Nat → Nat
  | 2 => if isLeapYear year then 29 else 28
  | 4 | 6 | 9 | 11 => 30
  | 1 | 3 | 5 | 7 | 8 | 10 | 12 => 31
  | _ => 0

/-- The years whose dates are counted. -/
def firstYear : Int := -262143

def lastYear : Int := 262142

/-- Days from the first of January of the year 1 to the first of the year given;
negative before. Division rounds down. -/
def daysBeforeYear (year : Int) : Int :=
  let past := year - 1
  365 * past + past / 4 - past / 100 + past / 400

/-- Days of the year before a month begins. -/
def daysBeforeMonth (year : Int) (month : Nat) : Nat :=
  ((List.range (month - 1)).map fun before => daysInMonth year (before + 1)).foldl (· + ·) 0

/-- The number of a date, zero on the first of January 1970. -/
def dayNumber (year : Int) (month day : Nat) : Int :=
  daysBeforeYear year - daysBeforeYear 1970 + daysBeforeMonth year month + day - 1

def isDate (year : Int) (month day : Nat) : Bool :=
  firstYear ≤ year && year ≤ lastYear && 1 ≤ day && day ≤ daysInMonth year month

/-- The year in which a day falls. Four hundred years have 146097 days, which gives the
year or one beside it. -/
def yearOfDay (day : Int) : Int :=
  let about := (day + daysBeforeYear 1970) * 400 / 146097 + 1
  if dayNumber (about + 1) 1 1 ≤ day then about + 1
  else if day < dayNumber about 1 1 then about - 1
  else about

/-- Year, month and day of a day number. -/
def dateOfDay (day : Int) : Int × Nat × Nat :=
  let year := yearOfDay day
  let past := (day - dayNumber year 1 1).toNat
  let month :=
    ((List.range 12).filter fun before => daysBeforeMonth year (before + 1) ≤ past).length
  (year, month, past - daysBeforeMonth year month + 1)

/-- A time of day. A leap second may follow any second; it is written as a fraction from
one to two seconds. -/
def isTime (hour minute second nanosecond : Nat) : Bool :=
  hour < 24 && minute < 60 && second < 60 && nanosecond < 2000000000

/-- Fields with a leap second are taken for the last second of a minute only. -/
def isLeapPlace (second nanosecond : Nat) : Bool := nanosecond < 1000000000 || second == 59

end ChartBoard.Calendar
