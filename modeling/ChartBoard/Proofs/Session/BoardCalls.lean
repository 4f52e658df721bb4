import ChartBoard.Proofs.Board.StatusLog
import ChartBoard.Proofs.Session.Outcomes
import ChartBoard.Proofs.Session.RefusedTurns

/-!
What a session does to its board. In processing a line it makes some calls, none of which brings
lines for the status log, and its reply adds one call that echoes the line and the reply together
(`Session.respond_byCalls`). Whether the log is enabled then is up to the line alone
(`Session.statusEnabled_respond`).
-/

namespace ChartBoard

namespace Command

/-- Whether the status log is enabled after a command. -/
def enables (enabled : Bool) : Command → Bool
  | enableStatus flag => flag
  | _ => enabled

/-- Whether the status log is enabled after a line. -/
def lineEnables (enabled : Bool) (line : String) : Bool :=
  match read line with
  | .ok command => command.enables enabled
  | .error _ => enabled

end Command

namespace Board

/-- All that has happened to a board are calls that bring no lines for its log. -/
def SilentCalls (before after : Board) (events : List BoardEvent) : Prop :=
  ∃ calls, (∀ call ∈ calls, BoardCall.lines call = []) ∧ after = before.afterCalls calls ∧
    events = before.told calls

theorem SilentCalls.none (board : Board) : board.SilentCalls board [] :=
  ⟨[], List.forall_mem_nil _, rfl, rfl⟩

theorem SilentCalls.one (board : Board) (call : BoardCall) (h : call.lines = []) :
    board.SilentCalls (board.call call).board (board.call call).events :=
  ⟨[call], List.forall_mem_singleton.mpr h, rfl, (List.append_nil _).symm⟩

theorem SilentCalls.trans {first second third : Board} {events later : List BoardEvent}
    (h : first.SilentCalls second events) (h' : second.SilentCalls third later) :
    first.SilentCalls third (events ++ later) := by
  obtain ⟨calls, hcalls, rfl, rfl⟩ := h
  obtain ⟨more, hmore, rfl, rfl⟩ := h'
  refine ⟨calls ++ more, List.forall_mem_append.mpr ⟨hcalls, hmore⟩, ?_, ?_⟩
  · rw [afterCalls_append]
  · rw [told_append]

end Board

namespace Session

theorem silentCalls_present (chart : Chart) (session : Session) (board : Board) :
    board.SilentCalls (session.present chart board).board (session.present chart board).events :=
  .one board (.attach session.slot chart.picture) rfl

theorem silentCalls_publish (chart : Chart) (session : Session) (board : Board) :
    board.SilentCalls (session.publish chart board).board (session.publish chart board).events := by
  unfold publish
  cases session.generation with
  | none => exact silentCalls_present chart session board
  | some generation =>
      have happlied : board.SilentCalls (board.apply session.slot generation chart.pending).board
          (board.apply session.slot generation chart.pending).events :=
        .one board (.apply session.slot generation chart.pending) rfl
      dsimp only
      split
      · exact happlied
      · exact happlied.trans (silentCalls_present chart session _)

theorem silentCalls_withChart (action : Action) (step : Chart → Fed) (session : Session)
    (board : Board) :
    board.SilentCalls (session.withChart action step board).board
      (session.withChart action step board).events := by
  unfold withChart
  split
  · exact .none board
  · dsimp only
    split
    · exact silentCalls_publish _ session board
    · exact .none board

section Outcome

variable {clock : Clock} {session : Session} {board : Board} {command : Command} {turn : Turn}
  (h : session.Outcome clock board command turn)

include h

theorem Outcome.silentCalls : board.SilentCalls turn.board turn.events := by
  cases h with
  | refused | ignored | choosesKind | configures | initializes => exact .none board
  | @arranges value grid hgrid hroom =>
      have hcall := Board.SilentCalls.one board (.setGrid grid.rows grid.columns) rfl
      rw [Board.call, Board.setGrid, if_pos hroom] at hcall
      exact hcall
  | titles value => exact .one board (.setFrameTitle value) rfl
  | addsPlot => exact silentCalls_present _ _ board
  | works _ action => exact silentCalls_withChart action _ session board
  | enablesStatus enabled => exact .one board (.setStatusEnabled enabled) rfl

theorem Outcome.statusEnabled (hother : ∀ enabled, command ≠ .enableStatus enabled) :
    turn.board.statusEnabled = board.statusEnabled := by
  cases h with
  | refused | ignored | choosesKind | configures | initializes | arranges | titles => rfl
  | addsPlot => exact (sameSurroundings_present _ _ board).statusEnabled
  | works _ action => exact (sameSurroundings_withChart action _ session board).statusEnabled
  | enablesStatus enabled => exact absurd rfl (hother enabled)

end Outcome

section Line

variable (clock : Clock) (session : Session) (board : Board) (line : String)

theorem silentCalls_process : board.SilentCalls (session.process clock line board).board
    (session.process clock line board).events := by
  unfold process
  split
  · exact .none board
  · exact (perform_outcome clock session board _).silentCalls

theorem statusEnabled_process : (session.process clock line board).board.statusEnabled =
    Command.lineEnables board.statusEnabled line := by
  unfold process Command.lineEnables
  cases Command.read line with
  | error refusal => rfl
  | ok command =>
      by_cases hcommand : ∃ enabled, command = .enableStatus enabled
      · obtain ⟨enabled, rfl⟩ := hcommand
        rfl
      · rw [not_exists] at hcommand
        have hkept : command.enables board.statusEnabled = board.statusEnabled := by
          cases command with
          | enableStatus enabled => exact absurd rfl (hcommand enabled)
          | _ => rfl
        dsimp only
        rw [hkept]
        exact (perform_outcome clock session board command).statusEnabled hcommand

/-- The lines that a session brings for the status log when it has replied to a line. -/
def exchangeLines (session : Session) (line : String) (reply : Reply) : List String :=
  [statusLine session.slot (withoutLineEnd line), statusLine session.slot reply.line]

/-- In replying to a line a session calls its board, at last to echo the line and the reply, and
before that without lines for the log. -/
theorem respond_byCalls : ∃ calls, (∀ call ∈ calls, BoardCall.lines call = []) ∧
    (session.respond clock line board).board = board.afterCalls (calls ++
      [.echo (session.exchangeLines line (session.respond clock line board).reply)]) ∧
    (session.respond clock line board).events = board.told (calls ++
      [.echo (session.exchangeLines line (session.respond clock line board).reply)]) := by
  have hprocess := silentCalls_process clock session board (withoutLineEnd line)
  unfold respond exchangeLines
  dsimp only
  generalize session.process clock (withoutLineEnd line) board = turn at hprocess ⊢
  obtain ⟨calls, hcalls, hboard, hevents⟩ := hprocess
  refine ⟨calls, hcalls, ?_, ?_⟩
  · rw [Board.afterCalls_append, ← hboard]
    rfl
  · rw [Board.told_append, ← hevents, ← hboard]
    exact congrArg _ (List.append_nil _).symm

theorem statusEnabled_respond : (session.respond clock line board).board.statusEnabled =
    Command.lineEnables board.statusEnabled (withoutLineEnd line) :=
  (sameSurroundings_respond clock line session board).statusEnabled.trans
    (statusEnabled_process clock session board (withoutLineEnd line))

end Line

end Session

end ChartBoard
