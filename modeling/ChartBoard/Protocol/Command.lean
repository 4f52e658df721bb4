import ChartBoard.Number.Decimal
import ChartBoard.Protocol.Refusal

/-!
The lines a client may send. A line is a comment, sets something, controls the
chart, or carries values in one of three forms:

    1.5,2.5 3.5               one value for each plot, in the order of the plots
    0:1.0:2.0 1:1.0:4.0       points, each with the index of its plot
    0:2013;1;2;23;10;5;587:7  a value at a timestamp
-/

namespace ChartBoard

open Text

/-- A point for the plot with the given index. -/
structure PlotPoint where
  plot : Nat
  x : Binary64
  y : Binary64
deriving DecidableEq

/-- Values for plots. -/
inductive DataLine where
  | sequential (values : List Binary64)
  | points (points : List PlotPoint)
  | timed (plot : Nat) (time : Timestamp) (y : Binary64)
deriving DecidableEq

/-- What a line asks for. -/
inductive Command where
  | comment
  | set (name value : String)
  | init
  | addPlot
  | clear (plot : Nat)
  | replot (plot : Nat)
  | enableStatus (enabled : Bool)
  | data (values : DataLine)
deriving DecidableEq

namespace Keyword

def set : String := "set "
def init : String := "init"
def addPlot : String := "add_plot"
def clear : String := "clear"
def replot : String := "replot"
def enableStatus : String := "enable_status"

end Keyword

namespace Command

/-- Whether a word can begin a number, whatever follows. -/
def startsNumber : List Char → Bool
  | c :: _ => c.isDigit || c == '+' || c == '-' || c == '.'
  | [] => false

/-- A finite number. The words for infinity and for no number are refused. -/
def readNumber (word : List Char) : Except LineFault Binary64 :=
  match Binary64.read? word with
  | some x =>
      if startsNumber word && x.isFinite then
        .ok x
      else
        .error (.notNumber (String.ofList word))
  | none => .error (.notNumber (String.ofList word))

/-- The index of a plot is a 64-bit word. -/
def readIndex (word : List Char) : Except LineFault Nat :=
  match readNat? word64 word with
  | some index => .ok index
  | none => .error (.notIndex (String.ofList word))

/-- Everything after the first equals sign is the value, just as it stands. -/
def readSet (assignment : List Char) : Except LineFault Command :=
  match splitFirst? (· == '=') assignment with
  | none => .error .noAssignment
  | some (name, value) =>
      if (trim name).isEmpty then
        .error .noName
      else
        .ok (.set (String.ofList (trim name)) (String.ofList value))

/-- The only word after a keyword. -/
def operand (keyword : String) : List (List Char) → Except LineFault (List Char)
  | [] => .error (.noOperand keyword)
  | [word] => .ok word
  | _ => .error (.extraOperand keyword)

def readFlag (word : List Char) : Except LineFault Bool :=
  let lower := String.ofList (word.map Char.toLower)
  if lower = "1" || lower = "true" || lower = "yes" then
    .ok true
  else if lower = "0" || lower = "false" || lower = "no" then
    .ok false
  else
    .error (.notFlag (String.ofList word))

/-- Values and points are separated by commas and blanks. -/
def separatesValues (c : Char) : Bool := c == ',' || isBlank c

def readPoint (word : List Char) : Except LineFault PlotPoint :=
  match split (· == ':') word with
  | [plot, x, y] => do
      let plot ← readIndex plot
      let x ← readNumber x
      let y ← readNumber y
      pure ⟨plot, x, y⟩
  | _ => .error (.notTriple (String.ofList word))

/-- Of several faults the one in the timestamp is reported first. -/
def readTimed (line : List Char) : Except LineFault DataLine :=
  match split (· == ':') line with
  | [plot, timestamp, y] =>
      match Timestamp.read (trim timestamp) with
      | .error fault => .error (.notTimestamp (String.ofList (trim timestamp)) fault)
      | .ok time => do
          let plot ← readIndex (trim plot)
          let y ← readNumber (trim y)
          pure (.timed plot time y)
  | _ => .error .notTimedValue

/-- Colons and semicolons decide the form of a line of values. -/
def readData (line : List Char) : Except LineFault DataLine :=
  if !line.contains ':' then do
    let values ← (tokens separatesValues line).mapM readNumber
    pure (.sequential values)
  else if line.contains Timestamp.separator then
    readTimed line
  else do
    let points ← (tokens separatesValues line).mapM readPoint
    pure (.points points)

def isComment : List Char → Bool
  | [] => true
  | c :: _ => c == '#' || c == '/'

/-- A line without blanks at its ends. -/
def readTrimmed (line : List Char) : Except LineFault Command :=
  if isComment line then
    .ok .comment
  else
    match Keyword.set.toList.isPrefixOf? line with
    | some assignment => readSet assignment
    | none =>
        if line = Keyword.init.toList then
          .ok .init
        else if line = Keyword.addPlot.toList then
          .ok .addPlot
        else
          let keyword := (words line).headD []
          let operands := (words line).drop 1
          if keyword = Keyword.clear.toList then do
            let word ← operand Keyword.clear operands
            return .clear (← readIndex word)
          else if keyword = Keyword.replot.toList then do
            let word ← operand Keyword.replot operands
            return .replot (← readIndex word)
          else if keyword = Keyword.enableStatus.toList then do
            let word ← operand Keyword.enableStatus operands
            return .enableStatus (← readFlag word)
          else do
            return .data (← readData line)

/-- Read a line. A line that cannot be read is refused with the line, trimmed, and
what is wrong with it. -/
def read (line : String) : Except Refusal Command :=
  let trimmed := trim line.toList
  (readTrimmed trimmed).mapError fun fault => .unreadable (String.ofList trimmed) fault

end Command

end ChartBoard
