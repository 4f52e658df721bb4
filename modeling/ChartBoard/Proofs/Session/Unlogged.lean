import ChartBoard.Proofs.Board.Unlogged
import ChartBoard.Proofs.Protocol.Grammar
import ChartBoard.Proofs.Session.Turns

/-!
Lines on a board without its status log. Every line but those that begin with `enable_status` does
the same there, and the display is told the same besides the lines of the log
(`Session.respond_unlogged`). A line that begins with `enable_status` leaves its session and the
board without its log as they were, also when it is refused (`Session.unlogged_respond_status`).
-/

namespace ChartBoard

open Text

def Turn.unlogged (turn : Turn) : Turn :=
  ⟨turn.session, turn.board.unlogged, shownEvents turn.events, turn.result⟩

def Session.Response.unlogged (response : Session.Response) : Session.Response :=
  ⟨response.reply, response.session, response.board.unlogged, shownEvents response.events⟩

/-- Lines whose first word switches the status log, whatever follows. -/
def concernsStatus (line : String) : Bool :=
  (runs isBlank line.toList).head? == some Keyword.enableStatus.toList

section Reading

variable {line : String}

theorem runs_trim_withoutLineEnd :
    runs isBlank (trim (Session.withoutLineEnd line).toList) = runs isBlank line.toList := by
  rw [← tokens_eq, ← tokens_eq, Session.trim_withoutLineEnd, tokens_trim fun _ hc => hc]

theorem read_concernsStatus (h : concernsStatus line = true) :
    (∃ refusal, Command.read (Session.withoutLineEnd line) = .error refusal) ∨
      ∃ enabled, Command.read (Session.withoutLineEnd line) = .ok (.enableStatus enabled) := by
  rw [concernsStatus, beq_iff_eq, ← runs_trim_withoutLineEnd] at h
  obtain ⟨later, hwords⟩ := List.head?_eq_some_iff.mp h
  unfold Command.read
  dsimp only
  rw [Command.readTrimmed_keyword (by decide) ((tokens_eq _).trans hwords)]
  cases Command.operand Keyword.enableStatus later with
  | error fault => exact .inl ⟨_, rfl⟩
  | ok word =>
      have hword : (Except.ok word >>= Command.readOperand Keyword.enableStatus) =
          (Command.readFlag word >>= fun enabled => pure (.enableStatus enabled)) := rfl
      rw [hword]
      cases Command.readFlag word with
      | error fault => exact .inl ⟨_, rfl⟩
      | ok enabled => exact .inr ⟨enabled, rfl⟩

theorem read_ne_enableStatus (h : concernsStatus line = false) (enabled : Bool) :
    Command.read (Session.withoutLineEnd line) ≠ .ok (.enableStatus enabled) := by
  intro hread
  have hline := Command.read_eq_ok_iff.mp hread
  rw [concernsStatus, ← runs_trim_withoutLineEnd] at h
  generalize trim (Session.withoutLineEnd line).toList = trimmed at hline h
  cases hline with
  | enableStatus hwords =>
      rw [hwords] at h
      simp at h

end Reading

namespace Session

variable (session : Session) (board : Board)

theorem present_unlogged (chart : Chart) :
    session.present chart board.unlogged = (session.present chart board).unlogged := by
  unfold present
  rw [Board.unlogged_attach]
  rfl

theorem publish_unlogged (chart : Chart) :
    session.publish chart board.unlogged = (session.publish chart board).unlogged := by
  unfold publish
  cases session.generation with
  | none => exact present_unlogged session board chart
  | some generation =>
      dsimp only
      rw [Board.unlogged_apply]
      obtain ⟨value, after, events⟩ := board.apply session.slot generation chart.pending
      cases value with
      | true => rfl
      | false => simp [Answered.unlogged, Turn.unlogged, present_unlogged session after chart]

theorem withChart_unlogged (action : Action) (step : Chart → Fed) :
    session.withChart action step board.unlogged =
      (session.withChart action step board).unlogged := by
  unfold withChart
  cases session.chart with
  | none => rfl
  | some chart =>
      dsimp only
      split
      · rw [publish_unlogged]
        rfl
      · rfl

theorem set_unlogged (name value : String) :
    session.set name value board.unlogged = (session.set name value board).unlogged := by
  unfold set
  split
  · unfold setKind
    dsimp only
    split <;> rfl
  split
  · unfold setGrid
    split
    · rfl
    · rw [Board.unlogged_setGrid]
      rfl
  split
  · rfl
  · unfold setAttribute
    split
    · rfl
    · split <;> rfl

theorem addPlot_unlogged :
    session.addPlot board.unlogged = (session.addPlot board).unlogged := by
  unfold addPlot
  split
  · rfl
  split
  · split
    · rfl
    · exact present_unlogged _ board _
  · rfl

theorem perform_unlogged (clock : Clock) {command : Command}
    (hcommand : ∀ enabled, command ≠ .enableStatus enabled) :
    session.perform clock command board.unlogged =
      (session.perform clock command board).unlogged := by
  cases command with
  | comment => rfl
  | set name value => exact set_unlogged session board name value
  | init =>
      unfold perform init
      dsimp only
      split <;> rfl
  | addPlot => exact addPlot_unlogged session board
  | clear index => exact withChart_unlogged session board .clearPlot _
  | replot index => exact withChart_unlogged session board .replot _
  | enableStatus enabled => exact absurd rfl (hcommand enabled)
  | data values =>
      unfold perform feed
      dsimp only
      split
      · exact withChart_unlogged session board .addValues _
      · rfl

theorem process_unlogged (clock : Clock) {line : String}
    (hline : ∀ enabled, Command.read line ≠ .ok (.enableStatus enabled)) :
    session.process clock line board.unlogged = (session.process clock line board).unlogged := by
  unfold process
  cases hread : Command.read line with
  | error refusal => rfl
  | ok command =>
      refine perform_unlogged session board clock fun enabled heq => hline enabled ?_
      rw [hread, heq]

theorem respond_unlogged (clock : Clock) {line : String} (hline : concernsStatus line = false) :
    session.respond clock line board.unlogged = (session.respond clock line board).unlogged := by
  unfold respond
  dsimp only
  rw [process_unlogged session board clock (read_ne_enableStatus hline)]
  generalize session.process clock (withoutLineEnd line) board = turn
  have hboard : turn.unlogged.board = turn.board.unlogged := rfl
  rw [hboard, Board.echo_unlogged]
  simp [Turn.unlogged, Response.unlogged, Board.unlogged_echo, Board.shownEvents_echo]

theorem process_concernsStatus (clock : Clock) {line : String}
    (hline : concernsStatus line = true) :
    let turn := session.process clock (withoutLineEnd line) board
    turn.session = session ∧ turn.board.unlogged = board.unlogged ∧ turn.events = [] := by
  intro turn
  dsimp only [turn]
  unfold process
  rcases read_concernsStatus hline with ⟨refusal, hread⟩ | ⟨enabled, hread⟩
  · rw [hread]
    exact ⟨rfl, rfl, rfl⟩
  · rw [hread]
    exact ⟨rfl, board.unlogged_setStatusEnabled enabled, rfl⟩

theorem unlogged_respond_status (clock : Clock) {line : String}
    (hline : concernsStatus line = true) :
    (session.respond clock line board).session = session ∧
      (session.respond clock line board).unlogged.board = board.unlogged ∧
      (session.respond clock line board).unlogged.events = [] := by
  obtain ⟨hsession, hboard, hevents⟩ := process_concernsStatus session board clock hline
  unfold respond Response.unlogged
  dsimp only
  rw [hsession, hevents, List.nil_append, Board.unlogged_echo]
  exact ⟨rfl, hboard, Board.shownEvents_echo _ _⟩

end Session

end ChartBoard
