import ChartBoard.Board.Basic

/-!
A board without its status log: what is left is what the display shows. Each operation does the
same on it as on the board with its log, and tells the display the same except for the lines of
the log; writing to the log does nothing at all.
-/

namespace ChartBoard

namespace BoardEvent

def isStatus : BoardEvent → Bool
  | status _ => true
  | _ => false

/-- What concerns the frame around the pictures: its layout and its title. -/
def isFrame : BoardEvent → Bool
  | layout _ _ => true
  | title _ => true
  | _ => false

end BoardEvent

/-- What a display is told besides the lines of the status log. -/
def shownEvents (events : List BoardEvent) : List BoardEvent :=
  events.filter fun event => !event.isStatus

@[simp] theorem shownEvents_append (events later : List BoardEvent) :
    shownEvents (events ++ later) = shownEvents events ++ shownEvents later :=
  List.filter_append _ _

@[simp] theorem shownEvents_shownEvents (events : List BoardEvent) :
    shownEvents (shownEvents events) = shownEvents events := by
  simp [shownEvents, List.filter_filter]

@[simp] theorem shownEvents_status (lines : List String) :
    shownEvents (lines.map .status) = [] := by
  simp [shownEvents, BoardEvent.isStatus]

/-- The board without its status log and without a window. -/
def Board.unlogged (board : Board) : Board :=
  { board with statusEnabled := false, statusLog := [], statusCapacity := 0, window := none }

def Answered.unlogged {α : Type} (answered : Answered α) : Answered α :=
  ⟨answered.value, answered.board.unlogged, shownEvents answered.events⟩

namespace Board

variable (board : Board)

@[simp] theorem slotCount_unlogged : board.unlogged.slotCount = board.slotCount := rfl

@[simp] theorem shown?_unlogged (slot : Nat) : board.unlogged.shown? slot = board.shown? slot := rfl

theorem unlogged_attach (slot : Nat) (picture : Picture) :
    board.unlogged.attach slot picture = (board.attach slot picture).unlogged := by
  unfold attach
  rw [slotCount_unlogged]
  split <;> rfl

theorem unlogged_apply (slot generation : Nat) (changes : List Change) :
    board.unlogged.apply slot generation changes =
      (board.apply slot generation changes).unlogged := by
  unfold apply
  rw [shown?_unlogged]
  cases board.shown? slot with
  | none => rfl
  | some shown =>
      dsimp only
      split
      · cases (shown.picture.follow changes).2 <;> rfl
      · rfl

theorem unlogged_setGrid (rows columns : Nat) :
    board.unlogged.setGrid rows columns = (board.setGrid rows columns).unlogged := by
  unfold setGrid
  rw [slotCount_unlogged]
  split <;> rfl

theorem unlogged_setStatusEnabled (enabled : Bool) :
    (board.setStatusEnabled enabled).unlogged = board.unlogged := rfl

/-- Nothing is written without a log. -/
theorem echo_unlogged (lines : List String) :
    board.unlogged.echo lines = ⟨(), board.unlogged, []⟩ := rfl

theorem unlogged_echo (lines : List String) :
    (board.echo lines).board.unlogged = board.unlogged := by
  unfold echo
  split <;> rfl

theorem shownEvents_echo (lines : List String) : shownEvents (board.echo lines).events = [] := by
  unfold echo
  split
  · exact shownEvents_status _
  · rfl

end Board

end ChartBoard
