import ChartBoard.Chart.Change
import ChartBoard.Text.Quoted

/-!
The board that all sessions share: a row of slots for pictures, the grid they are
laid out in, the title of the frame and the status log.

A session shows a picture in a slot and is given a generation. While the slot still
holds that generation, the session sends only changes; once another picture has
been shown there, its changes are turned away and it has to show a picture again.
Whatever an operation has drawn, laid out or written is listed with its answer.
-/

namespace ChartBoard

/-- Position and size of a window. -/
structure Window where
  x : Int32
  y : Int32
  width : UInt32
  height : UInt32
deriving DecidableEq

structure BoardSettings where
  /-- The lines kept in the status log; at least one is. -/
  statusCapacity : Nat := 1000
  statusEnabled : Bool := true
  frameTitle : String := "netplot"
deriving DecidableEq

/-- What a display is told. -/
inductive BoardEvent where
  | draw (slot : Nat) (picture : Picture)
  | layout (rows columns : Nat)
  | title (text : String)
  | status (line : String)
deriving DecidableEq

/-- A picture in a slot, and the generation that may change it. -/
structure Shown where
  generation : Nat
  picture : Picture
deriving DecidableEq

structure Grid where
  rows : Nat := 1
  columns : Nat := 1
deriving DecidableEq

structure Board where
  slots : List (Option Shown)
  /-- The number for the picture shown next. It grows without bound, as a counter of 64 bits does
  until `2 ^ 64` pictures have been shown. -/
  nextGeneration : Nat
  grid : Grid
  frameTitle : String
  statusEnabled : Bool
  /-- The lines of the status log, the oldest first. -/
  statusLog : List String
  statusCapacity : Nat
  /-- The window of the display, if it has one. -/
  window : Option Window
deriving DecidableEq

/-- The answer of an operation on a board, the board after it, and what the display
was told. -/
structure Answered (α : Type) where
  value : α
  board : Board
  events : List BoardEvent

namespace Board

def create (slotCount : Nat) (settings : BoardSettings) (window : Option Window) : Board where
  slots := List.replicate slotCount none
  nextGeneration := 1
  grid := {}
  frameTitle := settings.frameTitle
  statusEnabled := settings.statusEnabled
  statusLog := []
  statusCapacity := max 1 settings.statusCapacity
  window := window

def slotCount (board : Board) : Nat := board.slots.length

/-- What a slot shows with its generation; nothing outside the board. -/
def shown? (slot : Nat) (board : Board) : Option Shown := (board.slots[slot]?).join

def picture? (slot : Nat) (board : Board) : Option Picture :=
  (board.shown? slot).map Shown.picture

/-- Show a picture in a slot in place of what was there. The answer is the
generation that may change it; outside the board there is none, and nothing
happens. -/
def attach (slot : Nat) (picture : Picture) (board : Board) : Answered (Option Nat) :=
  if slot < board.slotCount then
    { value := some board.nextGeneration
      board := { board with
        slots := board.slots.set slot (some ⟨board.nextGeneration, picture⟩)
        nextGeneration := board.nextGeneration + 1 }
      events := [.draw slot picture] }
  else
    { value := none, board := board, events := [] }

/-- Change the picture in a slot and draw it. The answer is false, and nothing is
drawn, when the slot does not hold the generation or a change does not fit; in the
second case the changes before it remain made. -/
def apply (slot generation : Nat) (changes : List Change) (board : Board) : Answered Bool :=
  match board.shown? slot with
  | none => { value := false, board := board, events := [] }
  | some shown =>
      if shown.generation = generation then
        let (picture, fits) := shown.picture.follow changes
        { value := fits
          board :=
            { board with slots := board.slots.set slot (some { shown with picture := picture }) }
          events := if fits then [.draw slot picture] else [] }
      else
        { value := false, board := board, events := [] }

/-- Lay the slots out in a grid, which may not have more places than there are
slots. -/
def setGrid (rows columns : Nat) (board : Board) : Answered (Except Refusal Unit) :=
  if rows * columns ≤ board.slotCount then
    { value := .ok ()
      board := { board with grid := ⟨rows, columns⟩ }
      events := [.layout rows columns] }
  else
    { value := .error (.gridTooLarge rows columns board.slotCount)
      board := board
      events := [] }

def setFrameTitle (text : String) (board : Board) : Answered Unit where
  value := ()
  board := { board with frameTitle := text }
  events := [.title text]

def setStatusEnabled (enabled : Bool) (board : Board) : Board :=
  { board with statusEnabled := enabled }

/-- A log after one more line: the oldest line leaves a full log. -/
def appendLine (capacity : Nat) (log : List String) (line : String) : List String :=
  (if capacity ≤ log.length then log.drop 1 else log) ++ [line]

/-- Write lines to the status log without a break; while it is disabled they are
lost. -/
def echo (lines : List String) (board : Board) : Answered Unit :=
  if board.statusEnabled then
    { value := ()
      board := { board with
        statusLog := lines.foldl (appendLine board.statusCapacity) board.statusLog }
      events := lines.map .status }
  else
    { value := (), board := board, events := [] }

def status (line : String) (board : Board) : Answered Unit := board.echo [line]

/-- A board in one line, for a log of the program. -/
def summary (board : Board) : String :=
  "RenderSurface \x7b slots: " ++ toString board.slotCount ++ ", grid: (" ++
    toString board.grid.rows ++ ", " ++ toString board.grid.columns ++ "), frame_title: " ++
    Text.visiblyQuoted board.frameTitle ++ " \x7d"

end Board

end ChartBoard
