import ChartBoard.Proofs.Session.BoardCalls
import ChartBoard.Proofs.SharedBoard.Basic

/-!
The status log of a shared board, which is called by anyone while its sessions reply to lines. All
that happens comes down to calls of the board (`SharedBoard.happen_byCalls`), so that the log is the
end of the lines that these calls bring while it is enabled, and the display is told all of them
(`SharedBoard.status_log_keeps_last`).
-/

namespace ChartBoard

/-- What happens on a shared board: it is called, or one of its sessions replies to a line. -/
inductive Happening (Name : Type) where
  | call (call : BoardCall)
  | line (message : Message Name)

namespace SharedBoard

variable {Name : Type}

/-- What the display is told. -/
def eventsOf (state : SharedBoard Name) : Happening Name → List BoardEvent
  | .call call => (state.board.call call).events
  | .line message => (state.response message).events

/-- The lines for the status log. A call brings its lines if the log is enabled, and a session the
line and the reply to it if the log is enabled once the line has been processed. -/
def logLines (state : SharedBoard Name) : Happening Name → List String
  | .call call => if state.board.statusEnabled then call.lines else []
  | .line message =>
      let response := state.response message
      if response.board.statusEnabled then
        (state.sessions message.recipient).exchangeLines message.line response.reply
      else
        []

variable [DecidableEq Name]

def happen (happening : Happening Name) (state : SharedBoard Name) : SharedBoard Name :=
  match happening with
  | .call call => { state with board := (state.board.call call).board }
  | .line message => state.hear message

def happenAll (happenings : List (Happening Name)) (state : SharedBoard Name) : SharedBoard Name :=
  happenings.foldl (fun state happening => state.happen happening) state

/-- All that is seen of what happens by someone who watches every step. -/
def gathered {β : Type} (watch : SharedBoard Name → Happening Name → List β) :
    List (Happening Name) → SharedBoard Name → List β
  | [], _ => []
  | happening :: happenings, state =>
      watch state happening ++ gathered watch happenings (state.happen happening)

/-- Whatever happens comes down to calls of the board. -/
theorem happen_byCalls (happening : Happening Name) (state : SharedBoard Name) :
    ∃ calls, (state.happen happening).board = state.board.afterCalls calls ∧
      state.eventsOf happening = state.board.told calls ∧
      state.logLines happening = echoed state.board.statusEnabled calls := by
  cases happening with
  | call call =>
      refine ⟨[call], rfl, (List.append_nil _).symm, ?_⟩
      exact (List.append_nil _).symm
  | line message =>
      have hcalls :=
        Session.respond_byCalls message.clock (state.sessions message.recipient) state.board
          message.line
      rw [happen, hear_board, eventsOf, logLines, response]
      generalize (state.sessions message.recipient).respond message.clock message.line state.board =
        response at hcalls ⊢
      obtain ⟨calls, hsilent, hboard, hevents⟩ := hcalls
      have henabled := congrArg Board.statusEnabled hboard
      rw [Board.statusEnabled_afterCalls, List.foldl_append] at henabled
      refine ⟨_, hboard, hevents, ?_⟩
      rw [henabled, echoed_append, echoed_of_silent _ hsilent, List.nil_append, echoed, echoed,
        List.append_nil]
      rfl

theorem happenAll_byCalls (happenings : List (Happening Name)) (state : SharedBoard Name) :
    ∃ calls, (state.happenAll happenings).board = state.board.afterCalls calls ∧
      state.gathered eventsOf happenings = state.board.told calls ∧
      state.gathered logLines happenings = echoed state.board.statusEnabled calls := by
  induction happenings generalizing state with
  | nil => exact ⟨[], rfl, rfl, rfl⟩
  | cons happening happenings ih =>
      obtain ⟨calls, hboard, hevents, hlines⟩ := happen_byCalls happening state
      obtain ⟨later, hlast, hmore, hrest⟩ := ih (state.happen happening)
      rw [hboard] at hlast hmore hrest
      refine ⟨calls ++ later, ?_, ?_, ?_⟩
      · rw [Board.afterCalls_append]
        exact hlast
      · rw [gathered, hevents, hmore, Board.told_append]
      · rw [gathered, hlines, hrest, echoed_append, Board.statusEnabled_afterCalls]

/-- The status log of a board is the end of all that has been written to it, up to its capacity, and
the display is told all of it. What is written are the lines of all calls that have been made while
the log was enabled, in the order of the calls. Among these are the calls of the sessions. Upon a
line a session makes calls without lines for the log, and last of all one that echoes the line,
without its end, and the reply together, each marked with the slot; so they are written if the log
is enabled once the line has been processed, and only a line that enables or disables the log has a
say in that. -/
theorem status_log_keeps_last (slotCount : Nat) (settings : BoardSettings) (window : Option Window)
    (sessions : Name → Session) (happenings : List (Happening Name)) :
    let start : SharedBoard Name := ⟨sessions, Board.create slotCount settings window⟩
    let last := start.happenAll happenings
    let capacity := max 1 settings.statusCapacity
    let lines := start.gathered logLines happenings
    last.board.statusLog = lines.rtake capacity ∧
    last.board.statusLog.length = min capacity lines.length ∧
    statusLines (start.gathered eventsOf happenings) = lines ∧
    (∃ calls, last.board = start.board.afterCalls calls ∧
      start.gathered eventsOf happenings = start.board.told calls ∧
      lines = echoed settings.statusEnabled calls) ∧
    (∀ line, last.board.call (.echo [line]) =
      ⟨.done, (last.board.status line).board, (last.board.status line).events⟩) ∧
    ∀ message,
      let session := last.sessions message.recipient
      let response := last.response message
      let heard := Session.withoutLineEnd message.line
      response.board.statusEnabled = Command.lineEnables last.board.statusEnabled heard ∧
      ∃ calls, (∀ call ∈ calls, BoardCall.lines call = []) ∧
        let echo := .echo [Session.statusLine session.slot heard,
          Session.statusLine session.slot response.reply.line]
        response.board = last.board.afterCalls (calls ++ [echo]) ∧
        response.events = last.board.told (calls ++ [echo]) := by
  intro start last capacity lines
  obtain ⟨calls, hboard, hevents, hlines⟩ := happenAll_byCalls happenings start
  have hlogged := Board.logged_afterCalls start.board calls
  rw [← hboard, ← hevents, ← hlines] at hlogged
  have hlog : last.board.statusLog = lines.rtake capacity :=
    hlogged.statusLog_eq rfl (Nat.lt_of_lt_of_le Nat.one_pos
      (Nat.le_max_left 1 settings.statusCapacity))
  refine ⟨hlog, ?_, hlogged.told, ⟨calls, hboard, hevents, hlines⟩, fun line => rfl,
    fun message => ?_⟩
  · rw [hlog, List.rtake, List.length_drop]
    omega
  · exact ⟨Session.statusEnabled_respond message.clock _ _ message.line,
      Session.respond_byCalls message.clock _ _ message.line⟩

/-- A log with room for one line keeps the reply. -/
example :
    let start : SharedBoard Unit := fresh (fun _ => 0) (Board.create 1 { statusCapacity := 0 } none)
    (start.happenAll [.call (.echo ["a", "b"]),
      .line ⟨(), fun _ => 0, "# c\r\n"⟩]).board.statusLog =
        ["[0] OK"] ∧
      start.gathered logLines [.call (.echo ["a", "b"]), .line ⟨(), fun _ => 0, "# c\r\n"⟩] =
        ["a", "b", "[0] # c", "[0] OK"] := by
  decide +kernel

end SharedBoard

end ChartBoard
