import ChartBoard.Chart.Picture
import ChartBoard.Text.Quoted

/-!
Pictures as JSON text, on one line and without blanks, their fields in a fixed
order.
-/

namespace ChartBoard

namespace Json

def object (fields : List (String × String)) : String :=
  let written := fields.map fun (name, value) => Text.jsonQuoted name ++ ":" ++ value
  "\x7b" ++ String.intercalate "," written ++ "\x7d"

def array (items : List String) : String := "[" ++ String.intercalate "," items ++ "]"

def flag (b : Bool) : String := if b then "true" else "false"

def number (x : Binary64) : String := String.ofList (NumberLayout.json.write x)

end Json

namespace Axis

def json (axis : Axis) : String :=
  Json.object [("name", Text.jsonQuoted axis.name), ("log_scale", Json.flag axis.logScale),
    ("autoscale", Json.flag axis.autoscale), ("min", Json.number axis.min),
    ("max", Json.number axis.max), ("include_zero", Json.flag axis.includeZero),
    ("tick_count", toString axis.tickCount.toNat)]

end Axis

namespace PlotData

def json : PlotData → String
  | points ps =>
      let pairs := ps.map fun p => Json.array [Json.number p.x, Json.number p.y]
      Json.object [("points", Json.array pairs)]
  | value x => Json.object [("value", Json.number x)]

end PlotData

namespace Plot

def json (plot : Plot) : String :=
  Json.object [("name", Text.jsonQuoted plot.style.name),
    ("color", Text.jsonQuoted plot.style.color.name), ("axis", toString plot.style.axis),
    ("lines", Json.flag plot.style.lines), ("shapes", Json.flag plot.style.shapes),
    ("line_width", toString plot.style.lineWidth.toNat), ("data", plot.data.json)]

end Plot

namespace Picture

def json (picture : Picture) : String :=
  Json.object [("kind", Text.jsonQuoted picture.kind.name),
    ("title", Text.jsonQuoted picture.header.title),
    ("x_axis_name", Text.jsonQuoted picture.header.xAxisName),
    ("legend", Json.flag picture.header.legend),
    ("include_zero_x", Json.flag picture.header.includeZeroX),
    ("axes", Json.array (picture.axes.map Axis.json)),
    ("plots", Json.array (picture.plots.map Plot.json))]

end Picture

end ChartBoard
