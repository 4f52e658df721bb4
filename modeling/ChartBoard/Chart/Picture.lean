import ChartBoard.Chart.Attributes

/-!
Pictures: everything that is needed to draw a chart. A picture holds the chart's
header, its axes, and its plots with their styles and data.
-/

namespace ChartBoard

/-- The colours of plots. -/
inductive PlotColor where
  | blue
  | black
  | red
  | green
  | cyan
  | darkGray
  | gray
  | lightGray
  | magenta
  | orange
  | pink
  | yellow
deriving DecidableEq, Repr

namespace PlotColor

def name : PlotColor → String
  | blue => "blue"
  | black => "black"
  | red => "red"
  | green => "green"
  | cyan => "cyan"
  | darkGray => "dark_gray"
  | gray => "gray"
  | lightGray => "light_gray"
  | magenta => "magenta"
  | orange => "orange"
  | pink => "pink"
  | yellow => "yellow"

def palette : List PlotColor :=
  [blue, black, red, green, cyan, darkGray, gray, lightGray, magenta, orange, pink,
    yellow]

/-- Colours are given out in the order of the palette, over and over again. -/
def ofIndex (index : Nat) : PlotColor := palette.getD (index % palette.length) blue

end PlotColor

structure Point where
  x : Binary64
  y : Binary64
deriving DecidableEq

/-- A vertical axis, or the scale of a needle. -/
structure Axis where
  name : String
  logScale : Bool
  autoscale : Bool
  min : Binary64
  max : Binary64
  includeZero : Bool
  tickCount : UInt32
deriving DecidableEq

namespace Axis

def ofAttributes (a : Attributes) : Axis where
  name := a.yAxisName
  logScale := a.logY
  autoscale := a.autoscale
  min := a.minScale
  max := a.maxScale
  includeZero := a.zeroOnY
  tickCount := a.tickCount

end Axis

/-- What stands above and below a chart. -/
structure Header where
  title : String
  xAxisName : String
  legend : Bool
  includeZeroX : Bool
deriving DecidableEq

namespace Header

def ofAttributes (a : Attributes) : Header where
  title := a.plotTitle
  xAxisName := a.xAxisName
  legend := a.legend
  includeZeroX := a.zeroOnX

end Header

/-- How a plot is drawn, and on which axis. -/
structure PlotStyle where
  name : String
  color : PlotColor
  axis : Nat
  lines : Bool
  shapes : Bool
  lineWidth : UInt32
deriving DecidableEq

/-- What a plot shows: points, or the position of a needle. -/
inductive PlotData where
  | points (points : List Point)
  | value (value : Binary64)
deriving DecidableEq

namespace PlotData

/-- A needle has no points. -/
def pointList : PlotData → List Point
  | points ps => ps
  | value _ => []

end PlotData

structure Plot where
  style : PlotStyle
  data : PlotData
deriving DecidableEq

structure Picture where
  kind : ChartKind
  header : Header
  axes : List Axis
  plots : List Plot
deriving DecidableEq

namespace Picture

/-- The number of points of all plots together. -/
def pointCount (picture : Picture) : Nat :=
  (picture.plots.map fun plot => plot.data.pointList.length).foldl (· + ·) 0

end Picture

end ChartBoard
