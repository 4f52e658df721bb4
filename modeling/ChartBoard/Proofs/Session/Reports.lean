import ChartBoard.Proofs.Board.Reports

/-!
What the display is told of one line. A line that publishes has the chart of its session drawn
once, as it is after the line, and any other line has nothing drawn (`draws_respond`). That is not
so for a session in any state: a board may change a picture in part and give up, and then it draws
nothing. But the changes of a sound session fit what its slot shows. So a display that shows what
is on the board goes on to show it (`reports_respond`).
-/

namespace ChartBoard.Session

/-- Events in which the chart that a session has after a turn is drawn once, if the slot of the
session is one of the board, and no other picture. -/
def Draws (session : Session) (board : Board) (after : Session) (events : List BoardEvent) : Prop :=
  ∃ chart, after.chart = some chart ∧
    drawings events = if session.slot < board.slotCount then [(session.slot, chart.picture)] else []

theorem Draws.outside {session after : Session} {board : Board} {events : List BoardEvent}
    (h : session.Draws board after events) (hout : ¬session.slot < board.slotCount) :
    drawings events = [] := by
  obtain ⟨chart, -, hdrawings⟩ := h
  rwa [if_neg hout] at hdrawings

theorem draws_present (chart : Chart) (session : Session) (board : Board) :
    session.Draws board (session.present chart board).session
      (session.present chart board).events :=
  ⟨chart.settled, rfl, Board.drawings_attach board session.slot chart.picture⟩

/-- The board follows the changes of the owner of a slot to the end, and draws what comes of
them. -/
theorem draws_publish {session : Session} {board : Board} (hsound : session.Sound board)
    (hfeeding : session.stage = .feeding) {before after : Chart}
    (hchart : session.chart = some before) (hadvances : before.Advances after) :
    session.Draws board (session.publish after board).session
      (session.publish after board).events := by
  by_cases howned : ∃ shown, session.Owns board shown
  · obtain ⟨shown, howns⟩ := howned
    obtain ⟨hpending, hfit⟩ := hsound.settled before hchart
    have hfollow := hadvances.follow_pending hfit hpending
    rw [← hsound.shows before shown hfeeding hchart howns] at hfollow
    rw [publish_eq_of_owns howns hfollow]
    refine ⟨after.settled, rfl, ?_⟩
    rw [if_pos (Board.lt_slotCount_of_shown? howns.1)]
    exact Board.drawings_apply_of_owned howns.1 hfollow
  · rw [publish_of_not_owns fun shown howns => howned ⟨shown, howns⟩]
    exact draws_present after session board

section Commands

variable {session : Session} {board : Board}

theorem draws_withChart (hsound : session.Sound board) {step : Chart → Fed}
    (hstep : ∀ chart : Chart, chart.Advances (step chart).chart) (action : Action) :
    (session.stage == .feeding) = true ∧
        session.Draws board (session.withChart action step board).session
          (session.withChart action step board).events ∨
      (session.stage == .feeding) = false ∧
        drawings (session.withChart action step board).events = [] := by
  unfold withChart
  by_cases hstage : session.stage = .feeding
  · obtain ⟨chart, hchart⟩ := hsound.hasChart hstage
    rw [hchart]
    dsimp only
    rw [if_pos hstage]
    exact .inl ⟨beq_iff_eq.mpr hstage, draws_publish hsound hstage hchart (hstep chart)⟩
  · refine .inr ⟨beq_eq_false_iff_ne.mpr hstage, ?_⟩
    split
    · rfl
    · dsimp only
      rw [if_neg hstage]
      rfl

/-- A command that publishes has the chart drawn, and any other nothing. -/
theorem Outcome.draws {clock : Clock} {command : Command} {turn : Turn}
    (h : session.Outcome clock board command turn) (hsound : session.Sound board) :
    command.publishes session board = true ∧ session.Draws board turn.session turn.events ∨
      command.publishes session board = false ∧ drawings turn.events = [] := by
  cases h with
  | refused hquiet => exact .inr ⟨hquiet, rfl⟩
  | ignored | choosesKind | arranges | titles | configures | initializes | enablesStatus =>
      exact .inr ⟨rfl, rfl⟩
  | addsPlot hchart hready hadd =>
      exact .inl ⟨publishes_addPlot board hchart hready hadd, draws_present _ _ board⟩
  | works hstep action =>
      rw [Command.publishes_onPlots hstep]
      exact draws_withChart hsound (Command.advances_onPlots hstep) action

/-- A turn that says something of the frame only if it is accepted. -/
def SaysNothingIfRefused (turn : Turn) : Prop :=
  ∀ refusal, turn.result = .error refusal → frameEvents turn.events = []

theorem Outcome.saysNothingIfRefused {clock : Clock} {command : Command} {turn : Turn}
    (h : session.Outcome clock board command turn) : SaysNothingIfRefused turn := by
  intro refusal hrefused
  cases h with
  | refused => rfl
  | works _ action => exact (keepsFrame_withChart session board action _).events
  | ignored | choosesKind | arranges | titles | configures | initializes | addsPlot
  | enablesStatus => cases hrefused

theorem saysNothingIfRefused_process (clock : Clock) (line : String) :
    SaysNothingIfRefused (session.process clock line board) := by
  unfold process
  cases Command.read line with
  | error refusal => exact fun _ _ => rfl
  | ok command => exact (perform_outcome clock session board command).saysNothingIfRefused

theorem frameEvents_respond_of_error {clock : Clock} {line text : String}
    (h : (session.respond clock line board).reply = .error text) :
    frameEvents (session.respond clock line board).events = [] := by
  obtain ⟨refusal, hrefused, -⟩ := refused_of_reply h
  unfold respond
  dsimp only
  rw [frameEvents_append, Board.frameEvents_echo, List.append_nil]
  exact saysNothingIfRefused_process clock _ refusal hrefused

end Commands

/-- Turns that leave the frame alone and say nothing of it. -/
theorem KeepsFrame.reports {board : Board} {turn : Turn} (h : KeepsFrame board turn)
    (hpictures : ∀ slot, turn.board.picture? slot =
      (lastDrawn? slot turn.events).or (board.picture? slot)) :
    board.Reports turn.events turn.board := by
  obtain ⟨hlayout, htitle⟩ := last?_of_frameEvents h.events
  refine ⟨hpictures, ?_, ?_⟩
  · rw [hlayout, h.grid]
    rfl
  · rw [htitle, h.frameTitle]
    rfl

section Published

variable {session session' : Session} {board board' : Board} {events : List BoardEvent}
  (h : session.Published board session' board') (hdraws : session.Draws board session' events)

include h hdraws

/-- What is drawn is what the slot of the session shows. -/
theorem Published.drawings (hin : session.slot < board.slotCount) :
    ∃ picture, drawings events = [(session.slot, picture)] ∧
      board'.picture? session.slot = some picture := by
  obtain ⟨chart, hchart, hdrawings⟩ := hdraws
  obtain ⟨shown, hshown, hpicture⟩ := h.shows
  obtain rfl := Option.some.inj (hchart.symm.trans hshown)
  rw [if_pos hin] at hdrawings
  exact ⟨chart.picture, hdrawings, hpicture hin⟩

/-- The slot of the session shows what is drawn in it, and the others what they showed. -/
theorem Published.picture? (slot : Nat) :
    board'.picture? slot = (lastDrawn? slot events).or (board.picture? slot) := by
  have helsewhere (hother : slot ≠ session.slot) : board'.picture? slot = board.picture? slot := by
    rw [Board.picture?, h.elsewhere slot hother]
    rfl
  by_cases hin : session.slot < board.slotCount
  · obtain ⟨picture, hdrawings, hpicture⟩ := h.drawings hdraws hin
    rw [lastDrawn?_of_single hdrawings]
    split
    · rename_i hslot
      rw [← hslot, hpicture, Option.some_or]
    · rename_i hslot
      rw [helsewhere (Ne.symm hslot), Option.none_or]
  · rw [lastDrawn?_of_none (hdraws.outside hin), Option.none_or]
    by_cases hslot : slot = session.slot
    · have hout : ¬session.slot < board'.slotCount := by
        rw [h.slotCount]
        exact hin
      rw [hslot, Board.picture?_outside hin, Board.picture?_outside hout]
    · exact helsewhere hslot

end Published

section Lines

variable {session : Session} {board : Board}

/-- What a turn leaves to be shown in a slot is what it has drawn there last, or what was shown
before. -/
theorem Outcome.picture? {clock : Clock} {command : Command} {turn : Turn}
    (h : session.Outcome clock board command turn) (hsound : session.Sound board) (slot : Nat) :
    turn.board.picture? slot = (lastDrawn? slot turn.events).or (board.picture? slot) := by
  rcases h.published_or_quiet hsound with ⟨hpublishes, hshown⟩ | ⟨hquiet, hshown⟩ <;>
    rcases h.draws hsound with ⟨hdraw, hdraws⟩ | ⟨hnot, hdraws⟩
  · exact hshown.picture? hdraws slot
  · rw [hpublishes] at hnot
    cases hnot
  · rw [hquiet] at hdraw
    cases hdraw
  · rw [lastDrawn?_of_none hdraws, Option.none_or, Board.picture?, hshown.slots.shown?]
    rfl

theorem Outcome.reports {clock : Clock} {command : Command} {turn : Turn}
    (h : session.Outcome clock board command turn) (hsound : session.Sound board) :
    board.Reports turn.events turn.board := by
  by_cases hset : ∃ name value, command = .set name value
  · obtain ⟨name, value, rfl⟩ := hset
    cases h with
    | refused | choosesKind | configures => exact .refl board
    | arranges | titles => exact ⟨fun _ => rfl, rfl, rfl⟩
    | works hstep => cases hstep
  · exact (h.keepsFrame fun name value heq => hset ⟨name, value, heq⟩).reports (h.picture? hsound)

variable (hsound : session.Sound board)

include hsound

/-- A display that shows what is on the board shows it after the next line, too. -/
theorem reports_respond (clock : Clock) (line : String) :
    board.Reports (session.respond clock line board).events
      (session.respond clock line board).board := by
  unfold respond process
  dsimp only
  refine .trans ?_ (Board.reports_echo _ _)
  cases Command.read (withoutLineEnd line) with
  | error refusal => exact .refl board
  | ok command => exact (perform_outcome clock session board command).reports hsound

/-- A line that publishes has the chart drawn, and any other nothing. -/
theorem draws_respond (clock : Clock) (line : String) :
    session.publishes line board = true ∧
        session.Draws board (session.respond clock line board).session
          (session.respond clock line board).events ∨
      session.publishes line board = false ∧
        drawings (session.respond clock line board).events = [] := by
  unfold publishes respond process Draws
  dsimp only
  rw [drawings_append, Board.drawings_echo, List.append_nil]
  cases Command.read (withoutLineEnd line) with
  | error refusal => exact .inr ⟨rfl, rfl⟩
  | ok command => exact (perform_outcome clock session board command).draws hsound

end Lines

end ChartBoard.Session
