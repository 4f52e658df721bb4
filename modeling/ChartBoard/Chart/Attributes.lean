import ChartBoard.Number.Layout
import ChartBoard.Protocol.Command

/-!
The attributes of a chart: display options that a client sets by name. A chart
reads them when it is initialised and each time a plot is added.
-/

namespace ChartBoard

/-- The attributes that can be set. -/
inductive Attribute where
  | plotTitle
  | plotName
  | xAxisName
  | yAxisName
  | enableLines
  | enableShapes
  | enableAutoscale
  | minScaleValue
  | maxScaleValue
  | maxAgeSeconds
  | enableLogYAxis
  | enableZeroOnXScale
  | enableZeroOnYScale
  | enableLegend
  | tickCount
  | lineWidth
deriving DecidableEq, Repr

namespace Attribute

/-- The name on the wire. -/
def name : Attribute → String
  | plotTitle => "plot_title"
  | plotName => "plot_name"
  | xAxisName => "x_axis_name"
  | yAxisName => "y_axis_name"
  | enableLines => "enable_lines"
  | enableShapes => "enable_shapes"
  | enableAutoscale => "enable_autoscale"
  | minScaleValue => "min_scale_value"
  | maxScaleValue => "max_scale_value"
  | maxAgeSeconds => "max_age_seconds"
  | enableLogYAxis => "enable_log_y_axis"
  | enableZeroOnXScale => "enable_zero_on_x_scale"
  | enableZeroOnYScale => "enable_zero_on_y_scale"
  | enableLegend => "enable_legend"
  | tickCount => "tick_count"
  | lineWidth => "line_width"

def all : List Attribute :=
  [plotTitle, plotName, xAxisName, yAxisName, enableLines, enableShapes,
    enableAutoscale, minScaleValue, maxScaleValue, maxAgeSeconds, enableLogYAxis,
    enableZeroOnXScale, enableZeroOnYScale, enableLegend, tickCount, lineWidth]

def ofName? (text : String) : Option Attribute :=
  all.find? fun item => item.name == text

theorem ofName?_name (item : Attribute) : ofName? item.name = some item := by
  cases item <;> decide

end Attribute

/-- The values of all attributes of a chart. -/
structure Attributes where
  plotTitle : String := ""
  plotName : String := ""
  xAxisName : String := ""
  yAxisName : String := ""
  lines : Bool := true
  shapes : Bool := true
  autoscale : Bool := true
  minScale : Binary64 := .zero
  maxScale : Binary64 := .zero
  maxAgeSeconds : UInt64 := 60
  logY : Bool := false
  zeroOnX : Bool := true
  zeroOnY : Bool := false
  legend : Bool := true
  tickCount : UInt32 := 0
  lineWidth : UInt32 := 1
deriving DecidableEq

namespace Attributes

def flagText (flag : Bool) : String := if flag then "true" else "false"

/-- The words `true` and `false`, in lower case and without blanks. -/
def readFlag? (value : String) : Option Bool :=
  if value = "true" then some true
  else if value = "false" then some false
  else none

def readNumber? (value : String) : Option Binary64 :=
  (Command.readNumber value.toList).toOption

def readWord32? (value : String) : Option UInt32 :=
  (Text.readNat? Text.word32 value.toList).map UInt32.ofNat

def readWord64? (value : String) : Option UInt64 :=
  (Text.readNat? Text.word64 value.toList).map UInt64.ofNat

/-- Set one attribute to the value that a text gives, or say what form of value it
takes. -/
def put (item : Attribute) (value : String) (a : Attributes) :
    Except ValueForm Attributes :=
  let flag (store : Bool → Attributes) : Except ValueForm Attributes :=
    match readFlag? value with
    | some flag => .ok (store flag)
    | none => .error .flag
  let number (store : Binary64 → Attributes) : Except ValueForm Attributes :=
    match readNumber? value with
    | some x => .ok (store x)
    | none => .error .number
  let count32 (store : UInt32 → Attributes) : Except ValueForm Attributes :=
    match readWord32? value with
    | some n => .ok (store n)
    | none => .error .count
  match item with
  | .plotTitle => .ok { a with plotTitle := value }
  | .plotName => .ok { a with plotName := value }
  | .xAxisName => .ok { a with xAxisName := value }
  | .yAxisName => .ok { a with yAxisName := value }
  | .enableLines => flag fun v => { a with lines := v }
  | .enableShapes => flag fun v => { a with shapes := v }
  | .enableAutoscale => flag fun v => { a with autoscale := v }
  | .minScaleValue => number fun v => { a with minScale := v }
  | .maxScaleValue => number fun v => { a with maxScale := v }
  | .maxAgeSeconds =>
      match readWord64? value with
      | some n => .ok { a with maxAgeSeconds := n }
      | none => .error .count
  | .enableLogYAxis => flag fun v => { a with logY := v }
  | .enableZeroOnXScale => flag fun v => { a with zeroOnX := v }
  | .enableZeroOnYScale => flag fun v => { a with zeroOnY := v }
  | .enableLegend => flag fun v => { a with legend := v }
  | .tickCount => count32 fun v => { a with tickCount := v }
  | .lineWidth => count32 fun v => { a with lineWidth := v }

/-- Set the attribute of the given name. A value is taken as it stands, blanks
included; one that does not fit changes nothing. -/
def set (name value : String) (a : Attributes) : Except Refusal Attributes :=
  match Attribute.ofName? name with
  | none => .error (.unknownAttribute name value)
  | some item => (a.put item value).mapError fun form => .invalidValue name value form

/-- The value of one attribute as it is written on the wire. -/
def text (a : Attributes) : Attribute → String
  | .plotTitle => a.plotTitle
  | .plotName => a.plotName
  | .xAxisName => a.xAxisName
  | .yAxisName => a.yAxisName
  | .enableLines => flagText a.lines
  | .enableShapes => flagText a.shapes
  | .enableAutoscale => flagText a.autoscale
  | .minScaleValue => a.minScale.text
  | .maxScaleValue => a.maxScale.text
  | .maxAgeSeconds => toString a.maxAgeSeconds.toNat
  | .enableLogYAxis => flagText a.logY
  | .enableZeroOnXScale => flagText a.zeroOnX
  | .enableZeroOnYScale => flagText a.zeroOnY
  | .enableLegend => flagText a.legend
  | .tickCount => toString a.tickCount.toNat
  | .lineWidth => toString a.lineWidth.toNat

/-- The text of the attribute of the given name, if there is one. -/
def get? (name : String) (a : Attributes) : Option String :=
  (Attribute.ofName? name).map a.text

end Attributes

end ChartBoard
