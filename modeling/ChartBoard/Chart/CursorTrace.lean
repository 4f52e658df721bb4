import ChartBoard.Chart.Change

/-!
Traces written at a cursor. Each point goes where the cursor stands, over an older
point or at the end, and moves the cursor on. Rewinding the cursor starts a new
pass over the points already there.
-/

namespace ChartBoard

structure CursorTrace where
  points : List Point := []
  cursor : Nat := 0
deriving DecidableEq

namespace CursorTrace

def write (point : Point) (trace : CursorTrace) : CursorTrace where
  points :=
    if trace.cursor < trace.points.length then
      trace.points.set trace.cursor point
    else
      trace.points ++ [point]
  cursor := trace.cursor + 1

/-- The edit that a write makes to the points shown. -/
def writeEdit (point : Point) (trace : CursorTrace) : Edit := .setPoint trace.cursor point

def rewind (trace : CursorTrace) : CursorTrace := { trace with cursor := 0 }

end CursorTrace

end ChartBoard
