/-!
The four kinds of chart and their names on the wire.
-/

namespace ChartBoard

/-- What a chart shows: values over time, a row of bars, points in the plane, or
needles on scales. -/
inductive ChartKind where
  | time
  | bar
  | xy
  | dial
deriving DecidableEq, Repr

namespace ChartKind

def name : ChartKind → String
  | time => "time"
  | bar => "bar"
  | xy => "xy"
  | dial => "dial"

def all : List ChartKind := [time, bar, xy, dial]

/-- The kind of a name, exactly as it is written. -/
def ofName? (text : String) : Option ChartKind :=
  all.find? fun kind => kind.name == text

/-- What is said about a name of no kind. -/
def unknownMessage (text : String) : String :=
  text ++ " is an unknown graph type (expected time, bar, xy or dial)"

theorem ofName?_name (kind : ChartKind) : ofName? kind.name = some kind := by
  cases kind <;> decide

end ChartKind

end ChartBoard
