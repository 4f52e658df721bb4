import ChartBoard.Chart.Picture

/-!
Changes to a picture. A chart that takes values tells what each of them changed; a
picture that follows these changes stays the picture of the chart.
-/

namespace ChartBoard

/-- A change to the data of one plot. Positions count points from zero. -/
inductive Edit where
  /-- Replace the point at a position, or append one at the end. -/
  | setPoint (position : Nat) (point : Point)
  /-- Insert a point before a position. -/
  | insertPoint (position : Nat) (point : Point)
  /-- Remove points from the front. -/
  | dropOldest (count : Nat)
  | clearPoints
  | setValue (value : Binary64)
deriving DecidableEq

structure Change where
  plot : Nat
  edit : Edit
deriving DecidableEq

namespace PlotData

/-- The data after an edit, unless the edit does not fit: points and needles have
edits of their own, and no position may lie beyond the end. -/
def edit? : Edit → PlotData → Option PlotData
  | .setPoint position point, .points ps =>
      if position < ps.length then some (.points (ps.set position point))
      else if position = ps.length then some (.points (ps ++ [point]))
      else none
  | .insertPoint position point, .points ps =>
      if position ≤ ps.length then some (.points (ps.insertIdx position point)) else none
  | .dropOldest count, .points ps =>
      if count ≤ ps.length then some (.points (ps.drop count)) else none
  | .clearPoints, .points _ => some (.points [])
  | .setValue x, .value _ => some (.value x)
  | _, _ => none

end PlotData

namespace Picture

/-- The picture after a change, if there is such a plot and the change fits its
data. -/
def change? (change : Change) (picture : Picture) : Option Picture :=
  match picture.plots[change.plot]? with
  | none => none
  | some plot =>
      (plot.data.edit? change.edit).map fun data =>
        { picture with plots := picture.plots.set change.plot { plot with data := data } }

/-- Make changes one after the other up to the first that does not fit; tell
whether all of them did. The changes before a misfit remain made. -/
def follow : List Change → Picture → Picture × Bool
  | [], picture => (picture, true)
  | change :: changes, picture =>
      match picture.change? change with
      | some picture => follow changes picture
      | none => (picture, false)

end Picture

end ChartBoard
