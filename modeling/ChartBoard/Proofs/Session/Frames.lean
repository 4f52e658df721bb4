import ChartBoard.Proofs.Board.Unlogged
import ChartBoard.Proofs.Session.RefusedTurns

/-!
The frame around the pictures: the grid, the title, and what the display is told of both. Only
lines that set one of them change it, and what they do depends on the number of slots alone. So
one line does the same to equal frames, whatever the sessions, the pictures and the clocks are
(`Session.sameFrames_respond`).
-/

namespace ChartBoard

def frameEvents (events : List BoardEvent) : List BoardEvent := events.filter BoardEvent.isFrame

@[simp] theorem frameEvents_append (events later : List BoardEvent) :
    frameEvents (events ++ later) = frameEvents events ++ frameEvents later :=
  List.filter_append _ _

/-- The lines of the log say nothing about the frame. -/
@[simp] theorem frameEvents_shownEvents (events : List BoardEvent) :
    frameEvents (shownEvents events) = frameEvents events := by
  unfold frameEvents shownEvents
  rw [List.filter_filter]
  refine List.filter_congr fun event _ => ?_
  cases event <;> rfl

namespace Board

structure SameFrame (first second : Board) : Prop where
  slotCount : first.slotCount = second.slotCount
  grid : first.grid = second.grid
  frameTitle : first.frameTitle = second.frameTitle

@[simp] theorem frameEvents_attach (slot : Nat) (picture : Picture) (board : Board) :
    frameEvents (board.attach slot picture).events = [] := by
  by_cases hin : slot < board.slotCount
  · rw [attach_of_lt picture hin]
    rfl
  · rw [attach_outside picture hin]
    rfl

@[simp] theorem frameEvents_apply (slot generation : Nat) (changes : List Change) (board : Board) :
    frameEvents (board.apply slot generation changes).events = [] := by
  obtain ⟨_, _, fits, -, -, happly⟩ | ⟨-, happly⟩ := apply_cases slot generation changes board
  · rw [happly]
    cases fits <;> rfl
  · rw [happly]
    rfl

@[simp] theorem frameEvents_echo (lines : List String) (board : Board) :
    frameEvents (board.echo lines).events = [] := by
  unfold echo
  split
  · simp [frameEvents, BoardEvent.isFrame]
  · rfl

theorem SameFrame.echo {board board' : Board} (h : board.SameFrame board')
    (lines lines' : List String) :
    (board.echo lines).board.SameFrame (board'.echo lines').board where
  slotCount := by
    rw [(sameSlots_echo lines board).slotCount, (sameSlots_echo lines' board').slotCount,
      h.slotCount]
  grid := by
    rw [(sameSurroundings_echo lines board).grid,
      (sameSurroundings_echo lines' board').grid, h.grid]
  frameTitle := by
    rw [(sameSurroundings_echo lines board).frameTitle,
      (sameSurroundings_echo lines' board').frameTitle, h.frameTitle]

end Board

namespace Session

/-- A turn that leaves the frame of a board alone. -/
structure KeepsFrame (board : Board) (turn : Turn) : Prop where
  slotCount : turn.board.slotCount = board.slotCount
  grid : turn.board.grid = board.grid
  frameTitle : turn.board.frameTitle = board.frameTitle
  events : frameEvents turn.events = []

/-- A turn that does not touch the board. -/
theorem KeepsFrame.idle {board : Board} (session : Session) (result : Except Refusal Unit) :
    KeepsFrame board ⟨session, board, [], result⟩ := ⟨rfl, rfl, rfl, rfl⟩

structure SameFrames (first second : Turn) : Prop where
  boards : first.board.SameFrame second.board
  events : frameEvents first.events = frameEvents second.events

theorem SameFrames.of_keeps {board board' : Board} (hframe : board.SameFrame board')
    {first second : Turn} (h : KeepsFrame board first) (h' : KeepsFrame board' second) :
    SameFrames first second where
  boards.slotCount := by rw [h.slotCount, h'.slotCount, hframe.slotCount]
  boards.grid := by rw [h.grid, h'.grid, hframe.grid]
  boards.frameTitle := by rw [h.frameTitle, h'.frameTitle, hframe.frameTitle]
  events := by rw [h.events, h'.events]

section Kept

variable (session : Session) (board : Board)

theorem keepsFrame_present (chart : Chart) : KeepsFrame board (session.present chart board) := by
  have hsame := sameSurroundings_present chart session board
  exact ⟨Board.slotCount_attach _ _ _, hsame.grid, hsame.frameTitle, Board.frameEvents_attach _ _ _⟩

theorem keepsFrame_publish (chart : Chart) : KeepsFrame board (session.publish chart board) := by
  have hsame := sameSurroundings_publish chart session board
  refine ⟨(publish_outcome chart session board).2.2.2.2, hsame.grid, hsame.frameTitle, ?_⟩
  unfold publish
  split
  · exact (keepsFrame_present session board chart).events
  · dsimp only
    split
    · exact Board.frameEvents_apply _ _ _ _
    · simp [present]

theorem keepsFrame_withChart (action : Action) (step : Chart → Fed) :
    KeepsFrame board (session.withChart action step board) := by
  unfold withChart
  split
  · exact .idle _ _
  · dsimp only
    split
    · obtain ⟨hslots, hgrid, htitle, hevents⟩ := keepsFrame_publish session board (step _).chart
      exact ⟨hslots, hgrid, htitle, hevents⟩
    · exact .idle _ _

theorem keepsFrame_setKind (value : String) : KeepsFrame board (session.setKind value board) := by
  unfold setKind
  dsimp only
  split <;> exact .idle _ _

theorem keepsFrame_setAttribute (name value : String) :
    KeepsFrame board (session.setAttribute name value board) := by
  unfold setAttribute
  split
  · exact .idle _ _
  · split <;> exact .idle _ _

end Kept

variable {board board' : Board} (hframe : board.SameFrame board') (first second : Session)

include hframe

theorem sameFrames_setGrid (value : String) :
    SameFrames (first.setGrid value board) (second.setGrid value board') := by
  unfold setGrid
  cases readGrid value with
  | error fault => exact ⟨hframe, rfl⟩
  | ok grid =>
      unfold Board.setGrid
      dsimp only
      rw [hframe.slotCount]
      split
      · exact ⟨⟨hframe.slotCount, rfl, hframe.frameTitle⟩, rfl⟩
      · exact ⟨hframe, rfl⟩

theorem sameFrames_set (name value : String) :
    SameFrames (first.set name value board) (second.set name value board') := by
  unfold set
  split
  · exact .of_keeps hframe (keepsFrame_setKind first board value)
      (keepsFrame_setKind second board' value)
  split
  · exact sameFrames_setGrid hframe first second value
  split
  · exact ⟨⟨hframe.slotCount, hframe.grid, rfl⟩, rfl⟩
  · exact .of_keeps hframe (keepsFrame_setAttribute first board name value)
      (keepsFrame_setAttribute second board' name value)

omit hframe in
theorem Outcome.keepsFrame {clock : Clock} {session : Session} {command : Command} {turn : Turn}
    (h : session.Outcome clock board command turn)
    (hset : ∀ name value, command ≠ .set name value) :
    KeepsFrame board turn := by
  cases h with
  | refused | ignored | initializes => exact .idle _ _
  | enablesStatus => exact ⟨rfl, rfl, rfl, rfl⟩
  | addsPlot => exact keepsFrame_present _ board _
  | works _ action => exact keepsFrame_withChart session board action _
  | choosesKind | arranges | titles | configures => exact absurd rfl (hset _ _)

theorem sameFrames_process (clock clock' : Clock) (line : String) :
    SameFrames (first.process clock line board) (second.process clock' line board') := by
  unfold process
  cases Command.read line with
  | error refusal => exact ⟨hframe, rfl⟩
  | ok command =>
      by_cases hset : ∃ name value, command = .set name value
      · obtain ⟨name, value, rfl⟩ := hset
        exact sameFrames_set hframe first second name value
      · have hother : ∀ name value, command ≠ .set name value := fun name value heq =>
          hset ⟨name, value, heq⟩
        exact .of_keeps hframe ((perform_outcome clock first board command).keepsFrame hother)
          ((perform_outcome clock' second board' command).keepsFrame hother)

/-- One line does the same to equal frames. -/
theorem sameFrames_respond (clock clock' : Clock) (line : String) :
    (first.respond clock line board).board.SameFrame (second.respond clock' line board').board ∧
      frameEvents (first.respond clock line board).events =
        frameEvents (second.respond clock' line board').events := by
  obtain ⟨hboards, hevents⟩ :=
    sameFrames_process hframe first second clock clock' (withoutLineEnd line)
  unfold respond
  dsimp only
  refine ⟨(hboards.echo _ _), ?_⟩
  simp [hevents]

end Session

end ChartBoard
