import ChartBoard.Proofs.Board.Ownership
import Mathlib.Data.List.DropRight

/-!
The status log of a board. Each line is written behind the others, and a full log loses its oldest
line for it, so that the log is the end of all that was ever written (`Board.foldl_appendLine`).
What is written are the lines of those calls that are made while the log is enabled, and the display
is told the same lines (`Board.logged_afterCalls`).
-/

namespace ChartBoard

def BoardEvent.written? : BoardEvent → Option String
  | status line => some line
  | _ => none

/-- The lines of the status log that a display is told. -/
def statusLines (events : List BoardEvent) : List String := events.filterMap BoardEvent.written?

theorem statusLines_append (events later : List BoardEvent) :
    statusLines (events ++ later) = statusLines events ++ statusLines later :=
  List.filterMap_append

theorem statusLines_map_status (lines : List String) : statusLines (lines.map .status) = lines := by
  rw [statusLines, List.filterMap_map]
  exact List.filterMap_some

namespace BoardCall

/-- The lines for the status log that a call brings. -/
def lines : BoardCall → List String
  | echo lines => lines
  | _ => []

/-- Whether the status log is enabled after a call. -/
def enables (enabled : Bool) : BoardCall → Bool
  | setStatusEnabled flag => flag
  | _ => enabled

end BoardCall

/-- The lines of all calls that are made while the status log is enabled, in the order of the
calls. -/
def echoed : Bool → List BoardCall → List String
  | _, [] => []
  | enabled, call :: calls =>
      (if enabled then call.lines else []) ++ echoed (call.enables enabled) calls

section Echoed

variable (enabled : Bool) (calls : List BoardCall)

theorem echoed_append (later : List BoardCall) :
    echoed enabled (calls ++ later) =
      echoed enabled calls ++ echoed (calls.foldl BoardCall.enables enabled) later := by
  induction calls generalizing enabled with
  | nil => rfl
  | cons call calls ih =>
      rw [List.cons_append, echoed, echoed, ih, List.append_assoc, List.foldl_cons]

variable {calls} in
theorem echoed_of_silent (h : ∀ call ∈ calls, BoardCall.lines call = []) :
    echoed enabled calls = [] := by
  induction calls generalizing enabled with
  | nil => rfl
  | cons call calls ih =>
      obtain ⟨hcall, hlater⟩ := List.forall_mem_cons.mp h
      rw [echoed, hcall, ite_self, ih _ hlater, List.append_nil]

end Echoed

namespace Board

theorem appendLine_rtake {capacity : Nat} (h : 0 < capacity) (written : List String)
    (line : String) :
    appendLine capacity (written.rtake capacity) line = (written ++ [line]).rtake capacity := by
  rw [appendLine, List.rtake, List.rtake, List.length_drop, List.length_append,
    List.length_singleton]
  split
  · have hfull : written.length - capacity + 1 = written.length + 1 - capacity := by omega
    rw [List.drop_drop, hfull, List.drop_append_of_le_length (by omega)]
  · have hall : written.length - capacity = 0 := by omega
    have hroom : written.length + 1 - capacity = 0 := by omega
    rw [hall, hroom, List.drop_zero, List.drop_zero]

/-- A log holds the last of the lines written to it. -/
theorem foldl_appendLine {capacity : Nat} (h : 0 < capacity) (lines : List String) :
    lines.foldl (appendLine capacity) [] = lines.rtake capacity := by
  induction lines using List.reverseRecOn with
  | nil => exact (List.rtake_nil capacity).symm
  | append_singleton lines line ih =>
      rw [List.foldl_append, ih]
      exact appendLine_rtake h lines line

/-- All that a display is told upon some calls. -/
def told : List BoardCall → Board → List BoardEvent
  | [], _ => []
  | call :: calls, board => (board.call call).events ++ told calls (board.call call).board

theorem afterCalls_append (calls later : List BoardCall) (board : Board) :
    board.afterCalls (calls ++ later) = (board.afterCalls calls).afterCalls later :=
  List.foldl_append

theorem told_append (calls later : List BoardCall) (board : Board) :
    board.told (calls ++ later) = board.told calls ++ (board.afterCalls calls).told later := by
  induction calls generalizing board with
  | nil => rfl
  | cons call calls ih =>
      rw [List.cons_append, told, told, ih, List.append_assoc]
      rfl

/-- Some lines have been written to the status log, and the display has been told. -/
structure Logged (lines : List String) (before after : Board) (events : List BoardEvent) :
    Prop where
  capacity : after.statusCapacity = before.statusCapacity
  log : after.statusLog = lines.foldl (appendLine before.statusCapacity) before.statusLog
  told : statusLines events = lines

theorem Logged.refl (board : Board) : Logged [] board board [] := ⟨rfl, rfl, rfl⟩

theorem Logged.trans {lines more : List String} {first second third : Board}
    {events later : List BoardEvent} (h : Logged lines first second events)
    (h' : Logged more second third later) :
    Logged (lines ++ more) first third (events ++ later) where
  capacity := h'.capacity.trans h.capacity
  log := by rw [h'.log, h.log, h.capacity, List.foldl_append]
  told := by rw [statusLines_append, h.told, h'.told]

/-- An empty log is the end of what is then written to it. -/
theorem Logged.statusLog_eq {lines : List String} {before after : Board} {events : List BoardEvent}
    (h : Logged lines before after events) (hempty : before.statusLog = [])
    (hroom : 0 < before.statusCapacity) : after.statusLog = lines.rtake before.statusCapacity := by
  rw [h.log, hempty, foldl_appendLine hroom]

section Call

variable (board : Board)

theorem logged_echo (lines : List String) :
    Logged (if board.statusEnabled then lines else []) board (board.echo lines).board
      (board.echo lines).events := by
  unfold echo
  split
  · exact ⟨rfl, rfl, statusLines_map_status lines⟩
  · exact .refl board

variable {board} in
theorem logged_of_silent {call : BoardCall} (hlines : call.lines = [])
    (h : Logged [] board (board.call call).board (board.call call).events) :
    Logged (if board.statusEnabled then call.lines else []) board (board.call call).board
      (board.call call).events := by
  rw [hlines, ite_self]
  exact h

/-- A call writes its lines to the log while that is enabled. -/
theorem logged_call (call : BoardCall) :
    Logged (if board.statusEnabled then call.lines else []) board (board.call call).board
      (board.call call).events := by
  cases call with
  | echo lines => exact logged_echo board lines
  | attach slot picture =>
      refine logged_of_silent rfl ?_
      rw [Board.call, attach]
      split <;> exact ⟨rfl, rfl, rfl⟩
  | apply slot generation changes =>
      refine logged_of_silent rfl ?_
      rw [Board.call, apply]
      cases board.shown? slot with
      | none => exact .refl board
      | some shown =>
          dsimp only
          split
          · cases (shown.picture.follow changes).2 <;> exact ⟨rfl, rfl, rfl⟩
          · exact .refl board
  | setGrid rows columns =>
      refine logged_of_silent rfl ?_
      rw [Board.call, setGrid]
      split <;> exact ⟨rfl, rfl, rfl⟩
  | setFrameTitle | setStatusEnabled => exact logged_of_silent rfl ⟨rfl, rfl, rfl⟩

theorem statusEnabled_call (call : BoardCall) :
    (board.call call).board.statusEnabled = call.enables board.statusEnabled := by
  cases call with
  | setFrameTitle | setStatusEnabled => rfl
  | attach slot picture =>
      rw [Board.call, attach]
      split <;> rfl
  | setGrid rows columns =>
      rw [Board.call, setGrid]
      split <;> rfl
  | echo lines =>
      rw [Board.call, echo]
      split <;> rfl
  | apply slot generation changes =>
      rw [Board.call, apply]
      cases board.shown? slot with
      | none => rfl
      | some shown =>
          dsimp only
          split <;> rfl

/-- So do all calls, and one of them may enable the log for the next. -/
theorem logged_afterCalls (calls : List BoardCall) :
    Logged (echoed board.statusEnabled calls) board (board.afterCalls calls)
      (board.told calls) := by
  induction calls generalizing board with
  | nil => exact .refl board
  | cons call calls ih =>
      have hlater := ih (board.call call).board
      rw [statusEnabled_call] at hlater
      exact (logged_call board call).trans hlater

theorem statusEnabled_afterCalls (calls : List BoardCall) :
    (board.afterCalls calls).statusEnabled = calls.foldl BoardCall.enables board.statusEnabled := by
  induction calls generalizing board with
  | nil => rfl
  | cons call calls ih => rw [List.foldl_cons, ← statusEnabled_call, ← ih]; rfl

end Call

end Board

end ChartBoard
