import ChartBoard.Board.Basic
import ChartBoard.Text.Utf8

/-!
What a server remembers from one run to the next: its base port and its window, as lines
of keys and values. Reading is forgiving. A line that cannot be read hurts no other, and
a value that cannot be read leaves its key unset.
-/

namespace ChartBoard

open Text

structure SavedState where
  basePort : Option UInt16 := none
  window : Option Window := none
deriving DecidableEq

namespace SavedState

inductive Key where
  | basePort
  | x
  | y
  | width
  | height
deriving DecidableEq

def Key.name : Key → String
  | basePort => "server_port"
  | x => "gui_x"
  | y => "gui_y"
  | width => "gui_width"
  | height => "gui_height"

def Key.all : List Key := [basePort, x, y, width, height]

def Key.ofName? (name : List Char) : Option Key := all.find? fun key => key.name.toList == name

/-- The values of the keys, as far as they are set. -/
structure Values where
  basePort : Option UInt16 := none
  x : Option Int32 := none
  y : Option Int32 := none
  width : Option UInt32 := none
  height : Option UInt32 := none
deriving DecidableEq

/-- A port; there is no port zero. -/
def readPort? (text : List Char) : Option UInt16 :=
  ((readNat? word16 text).filter fun port => port != 0).map UInt16.ofNat

def readPosition? (text : List Char) : Option Int32 := (readInt? (1 <<< 31) text).map Int32.ofInt

def readSize? (text : List Char) : Option UInt32 := (readNat? word32 text).map UInt32.ofNat

/-- A key takes the value of a text, or is unset if the text is no value of it. -/
def Values.put (key : Key) (text : List Char) (values : Values) : Values :=
  match key with
  | .basePort => { values with basePort := readPort? text }
  | .x => { values with x := readPosition? text }
  | .y => { values with y := readPosition? text }
  | .width => { values with width := readSize? text }
  | .height => { values with height := readSize? text }

def isComment : List Char → Bool
  | [] => true
  | c :: _ => c == '#' || c == '!'

/-- Key and value of a line stand before and after its first `=` or `:`. -/
def readLine (values : Values) (line : List Char) : Values :=
  let line := trim line
  if isComment line then
    values
  else
    match splitFirst? (fun c => c == '=' || c == ':') line with
    | none => values
    | some (name, text) =>
        match Key.ofName? (trim name) with
        | none => values
        | some key => values.put key (trim text)

/-- There is a window only if all of its values are set. -/
def ofValues (values : Values) : SavedState where
  basePort := values.basePort
  window := do pure ⟨← values.x, ← values.y, ← values.width, ← values.height⟩

def read (text : List Char) : SavedState :=
  ofValues ((split (· == '\n') text).foldl readLine {})

/-- The state in a file, if there is one. A file that is no text counts as empty. -/
def ofFile (file : Option (List UInt8)) : SavedState :=
  match file.bind Utf8.decode? with
  | some text => read text
  | none => {}

def lineOf (key : Key) (value : String) : String := key.name ++ "=" ++ value ++ "\n"

/-- The lines of a state. -/
def text (state : SavedState) : String :=
  let port := match state.basePort with
    | some port => lineOf .basePort (toString port.toNat)
    | none => ""
  let window := match state.window with
    | some window =>
        lineOf .x (toString window.x.toInt) ++ lineOf .y (toString window.y.toInt) ++
          lineOf .width (toString window.width.toNat) ++
          lineOf .height (toString window.height.toNat)
    | none => ""
  "# netplot saved state\n" ++ port ++ window

/-- The bytes of the file that keeps a state. -/
def file (state : SavedState) : List UInt8 := Utf8.encode state.text.toList

end SavedState

end ChartBoard
