import ChartBoard.Chart.Attributes

/-!
What a client says of a plot before it adds it: every attribute of a plot with its
value, in a fixed order.
-/

namespace ChartBoard

structure PlotSettings where
  plotName : String := ""
  xAxisName : String := ""
  yAxisName : String := ""
  lines : Bool := true
  lineWidth : UInt32 := 1
  shapes : Bool := true
  autoscale : Bool := true
  minScale : Binary64 := .zero
  maxScale : Binary64 := .ofNat 1000000
  maxAgeSeconds : UInt64 := 3600
  logY : Bool := false
  zeroOnX : Bool := true
  zeroOnY : Bool := true
  tickCount : UInt32 := 0
deriving DecidableEq

namespace PlotSettings

/-- A plot of which only the name is chosen. -/
def named (name : String) : PlotSettings := { plotName := name }

/-- The attributes and their values, in the order in which they are sent. -/
def assignments (p : PlotSettings) : List (Attribute × String) :=
  [(.plotName, p.plotName), (.xAxisName, p.xAxisName), (.yAxisName, p.yAxisName),
    (.enableLines, Attributes.flagText p.lines), (.lineWidth, toString p.lineWidth.toNat),
    (.enableShapes, Attributes.flagText p.shapes),
    (.enableAutoscale, Attributes.flagText p.autoscale),
    (.minScaleValue, p.minScale.text), (.maxScaleValue, p.maxScale.text),
    (.maxAgeSeconds, toString p.maxAgeSeconds.toNat),
    (.enableLogYAxis, Attributes.flagText p.logY),
    (.enableZeroOnXScale, Attributes.flagText p.zeroOnX),
    (.enableZeroOnYScale, Attributes.flagText p.zeroOnY),
    (.tickCount, toString p.tickCount.toNat)]

end PlotSettings

end ChartBoard
