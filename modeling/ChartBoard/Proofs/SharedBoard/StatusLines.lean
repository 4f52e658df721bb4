import ChartBoard.Proofs.Session.Frames
import ChartBoard.Proofs.Session.Likeness
import ChartBoard.Proofs.Session.Unlogged
import ChartBoard.Proofs.SharedBoard.Isolation

/-!
The status log is a witness that nobody asks. Take the lines out of a run that switch the log,
and the log itself: what is left is the run of the other lines on a board without a log
(`unlogged_hearAll`, `observed_unlogged`). So runs that differ in such lines, and in whether and
how much is logged at the beginning, differ in the log alone (`status_lines_change_log_alone`).
What does not hang on the clock is the same in them even if their clocks go differently.
-/

namespace ChartBoard

/-- Whom a line is for, and the line, without the clock. -/
def Message.addressed {Name : Type} (message : Message Name) : Name × String :=
  (message.recipient, message.line)

namespace SharedBoard

variable {Name : Type}

/-- The lines of a run that do not switch the status log. -/
def common (messages : List (Message Name)) : List (Message Name) :=
  messages.filter fun message => !concernsStatus message.line

theorem common_cons_status {message : Message Name} (hline : concernsStatus message.line = true)
    (messages : List (Message Name)) : common (message :: messages) = common messages :=
  List.filter_cons_of_neg (by simp [hline])

theorem common_cons {message : Message Name} (hline : concernsStatus message.line = false)
    (messages : List (Message Name)) : common (message :: messages) = message :: common messages :=
  List.filter_cons_of_pos (by simp [hline])

def unlogged (state : SharedBoard Name) : SharedBoard Name := ⟨state.sessions, state.board.unlogged⟩

/-- The answer to a line, unless it switches the status log. -/
def commonAnswer (message : Message Name) (response : Session.Response) : List (Name × Answer) :=
  if concernsStatus message.line then [] else [(message.recipient, response.answer)]

/-- What the display is told upon a line besides the lines of the log. -/
def displayCalls (_ : Message Name) (response : Session.Response) : List BoardEvent :=
  shownEvents response.events

theorem unlogged_fresh (slotOf : Name → Nat) (slotCount : Nat) (settings : BoardSettings)
    (window : Option Window) : (fresh slotOf (Board.create slotCount settings window)).unlogged =
      (fresh slotOf (Board.create slotCount { frameTitle := settings.frameTitle }
        none)).unlogged := rfl

theorem response_unlogged {message : Message Name} (hline : concernsStatus message.line = false)
    (state : SharedBoard Name) :
    state.unlogged.response message = (state.response message).unlogged :=
  Session.respond_unlogged _ _ message.clock hline

/-- States that differ at most in what plots hold and in how it is drawn. -/
structure Timeless (first second : SharedBoard Name) : Prop where
  sessions : ∀ name, Session.Kin Chart.SameOutline (first.sessions name) (second.sessions name)
  frame : first.board.SameFrame second.board

theorem Timeless.refl (state : SharedBoard Name) : state.Timeless state where
  sessions name := ⟨rfl, by cases (state.sessions name).chart <;> constructor; exact ⟨rfl, rfl⟩⟩
  frame := ⟨rfl, rfl, rfl⟩

theorem response_status {message : Message Name} (hline : concernsStatus message.line = true)
    (state : SharedBoard Name) :
    (state.response message).session = state.sessions message.recipient ∧
      (state.response message).unlogged.board = state.board.unlogged ∧
      (state.response message).unlogged.events = [] :=
  Session.unlogged_respond_status _ state.board message.clock hline

variable [DecidableEq Name]

/-- What is seen of a run by someone who watches each line and its response. -/
def observed {β : Type} (watch : Message Name → Session.Response → List β) :
    List (Message Name) → SharedBoard Name → List β
  | [], _ => []
  | message :: messages, state =>
      watch message (state.response message) ++ observed watch messages (state.hear message)

section Unlogged

theorem hear_unlogged {message : Message Name} (hline : concernsStatus message.line = false)
    (state : SharedBoard Name) : state.unlogged.hear message = (state.hear message).unlogged := by
  unfold hear
  rw [response_unlogged hline]
  generalize state.response message = response
  rfl

theorem unlogged_hear_status {message : Message Name} (hline : concernsStatus message.line = true)
    (state : SharedBoard Name) : (state.hear message).unlogged = state.unlogged := by
  obtain ⟨hsession, hboard, -⟩ := response_status hline state
  unfold hear
  generalize state.response message = response at hsession hboard
  rw [hsession, Function.update_eq_self]
  exact congrArg (SharedBoard.mk state.sessions) hboard

/-- Without its log a run is the run of the lines that do not switch the log. -/
theorem unlogged_hearAll (messages : List (Message Name)) (state : SharedBoard Name) :
    (state.hearAll messages).unlogged = state.unlogged.hearAll (common messages) := by
  induction messages generalizing state with
  | nil => rfl
  | cons message messages ih =>
      rw [hearAll_cons, ih]
      cases hline : concernsStatus message.line with
      | true => rw [unlogged_hear_status hline, common_cons_status hline]
      | false => rw [← hear_unlogged hline, common_cons hline, hearAll_cons]

/-- Nor does it look different to someone who does not watch the log. -/
theorem observed_unlogged {β : Type} {watch : Message Name → Session.Response → List β}
    (hstatus : ∀ message response, concernsStatus message.line = true →
      response.unlogged.events = [] → watch message response = [])
    (hcommon : ∀ message response, watch message response.unlogged = watch message response)
    (messages : List (Message Name)) (state : SharedBoard Name) :
    state.observed watch messages = state.unlogged.observed watch (common messages) := by
  induction messages generalizing state with
  | nil => rfl
  | cons message messages ih =>
      rw [observed, ih]
      cases hline : concernsStatus message.line with
      | true =>
          have hsilent := (response_status hline state).2.2
          rw [unlogged_hear_status hline, common_cons_status hline, hstatus message _ hline hsilent,
            List.nil_append]
      | false =>
          rw [common_cons hline, observed, response_unlogged hline, hcommon, hear_unlogged hline]

theorem observed_commonAnswer (messages : List (Message Name)) (state : SharedBoard Name) :
    state.observed commonAnswer messages =
      state.unlogged.observed commonAnswer (common messages) := by
  apply observed_unlogged
  · intro message response hline _
    exact if_pos hline
  · intro message response
    rfl

theorem observed_displayCalls (messages : List (Message Name)) (state : SharedBoard Name) :
    state.observed displayCalls messages =
      state.unlogged.observed displayCalls (common messages) := by
  apply observed_unlogged
  · intro message response _ hevents
    exact hevents
  · intro message response
    exact shownEvents_shownEvents response.events

end Unlogged

section Timeless

/-- The replies to common lines, and how far the sessions are after them. -/
def protocols (answers : List (Name × Answer)) : List (Name × Reply × Stage) :=
  answers.map fun (name, answer) => (name, answer.protocol)

variable {first second : SharedBoard Name}

/-- One line under two clocks. -/
theorem Timeless.hear (h : first.Timeless second) {message message' : Message Name}
    (hsame : message.addressed = message'.addressed) :
    (first.hear message).Timeless (second.hear message') ∧
      protocols (commonAnswer message (first.response message)) =
        protocols (commonAnswer message' (second.response message')) ∧
      frameEvents (displayCalls message (first.response message)) =
        frameEvents (displayCalls message' (second.response message')) := by
  obtain ⟨recipient, clock, line⟩ := message
  obtain ⟨recipient', clock', line'⟩ := message'
  obtain ⟨rfl, rfl⟩ := Prod.mk.inj hsame
  obtain ⟨hreply, hsession, -⟩ := (h.sessions recipient).respond
    (Chart.likeness_sameOutline clock clock') h.frame.slotCount line
  obtain ⟨hboard, hevents⟩ := Session.sameFrames_respond h.frame (first.sessions recipient)
    (second.sessions recipient) clock clock' line
  refine ⟨⟨fun name => ?_, ?_⟩, ?_, ?_⟩
  · by_cases hname : name = recipient
    · subst hname
      rw [hear_recipient ⟨name, clock, line⟩, hear_recipient ⟨name, clock', line⟩]
      exact hsession
    · rw [hear_other hname, hear_other hname]
      exact h.sessions name
  · rw [hear_board, hear_board]
    exact hboard
  · have hprotocol := LikeAnswers.protocol (LikeAnswers.of_kin hreply hsession)
    unfold commonAnswer
    dsimp only
    split
    · rfl
    · exact congrArg (fun protocol => [(recipient, protocol)]) hprotocol
  · unfold displayCalls
    rw [frameEvents_shownEvents, frameEvents_shownEvents]
    exact hevents

theorem Timeless.hearAll (h : first.Timeless second) {messages messages' : List (Message Name)}
    (hsame : List.Forall₂ (fun message message' => message.addressed = message'.addressed)
      messages messages') :
    (first.hearAll messages).Timeless (second.hearAll messages') ∧
      protocols (first.observed commonAnswer messages) =
        protocols (second.observed commonAnswer messages') ∧
      frameEvents (first.observed displayCalls messages) =
        frameEvents (second.observed displayCalls messages') := by
  induction hsame generalizing first second with
  | nil => exact ⟨h, rfl, rfl⟩
  | cons hline _ ih =>
      obtain ⟨hnext, hprotocol, hframe⟩ := h.hear hline
      obtain ⟨hlast, hprotocols, hframes⟩ := ih hnext
      refine ⟨hlast, ?_, ?_⟩
      · unfold protocols at hprotocol hprotocols ⊢
        rw [observed, observed, List.map_append, List.map_append, hprotocol, hprotocols]
      · rw [observed, observed, frameEvents_append, frameEvents_append, hframe, hframes]

end Timeless

/-- Two runs of the same lines, but for those that switch the status log, on boards that differ at
most in whether and how much they log: the replies to the common lines, the stages of all sessions,
the grid, the title and the calls about both are the same. If the common lines are also heard under
the same clocks, the sessions, the pictures in all slots and all calls of the display besides those
for the log are the same. -/
theorem status_lines_change_log_alone (slotOf : Name → Nat) (slotCount : Nat)
    (settings settings' : BoardSettings) (window window' : Option Window)
    (messages messages' : List (Message Name)) (htitle : settings.frameTitle = settings'.frameTitle)
    (hlines : (common messages).map Message.addressed = (common messages').map Message.addressed) :
    let start := fresh slotOf (Board.create slotCount settings window)
    let start' := fresh slotOf (Board.create slotCount settings' window')
    let last := start.hearAll messages
    let last' := start'.hearAll messages'
    protocols (start.observed commonAnswer messages) =
        protocols (start'.observed commonAnswer messages') ∧
      (∀ name, (last.sessions name).stage = (last'.sessions name).stage) ∧
      last.board.grid = last'.board.grid ∧ last.board.frameTitle = last'.board.frameTitle ∧
      frameEvents (start.observed displayCalls messages) =
        frameEvents (start'.observed displayCalls messages') ∧
      (common messages = common messages' →
        start.observed commonAnswer messages = start'.observed commonAnswer messages' ∧
        last.sessions = last'.sessions ∧
        (∀ slot, last.board.picture? slot = last'.board.picture? slot) ∧
        start.observed displayCalls messages = start'.observed displayCalls messages') := by
  intro start start' last last'
  have hstart : start.unlogged = start'.unlogged := by
    dsimp only [start, start']
    rw [unlogged_fresh, unlogged_fresh slotOf slotCount settings', htitle]
  have hlast : last.unlogged = start.unlogged.hearAll (common messages) := unlogged_hearAll _ _
  have hlast' : last'.unlogged = start.unlogged.hearAll (common messages') :=
    hstart ▸ unlogged_hearAll _ _
  rw [observed_commonAnswer messages, observed_commonAnswer messages',
    observed_displayCalls messages, observed_displayCalls messages', ← hstart]
  have hsame : List.Forall₂ (fun message message' => message.addressed = message'.addressed)
      (common messages) (common messages') := by
    rw [← List.forall₂_eq_eq_eq, List.forall₂_map_left_iff, List.forall₂_map_right_iff] at hlines
    exact hlines
  obtain ⟨htimeless, hprotocols, hframes⟩ := (Timeless.refl start.unlogged).hearAll hsame
  rw [← hlast, ← hlast'] at htimeless
  refine ⟨hprotocols, fun name => (htimeless.sessions name).stage, htimeless.frame.grid,
    htimeless.frame.frameTitle, hframes, ?_⟩
  intro hcommon
  have hboth : last.unlogged = last'.unlogged := by
    rw [hlast, hlast', hcommon]
  rw [unlogged, unlogged, SharedBoard.mk.injEq] at hboth
  refine ⟨by rw [hcommon], hboth.1, fun slot => ?_, by rw [hcommon]⟩
  have hshown : last.board.unlogged.picture? slot = last'.board.unlogged.picture? slot := by
    rw [hboth.2]
  exact hshown

/-- A board that logs nothing at first, and one that logs one line, with two lines for the log in
between, one of them refused. -/
theorem status_lines_change_log_alone_two_lines :
    let heard : List (Bool × String) → List (Message Bool) := List.map fun (name, line) =>
      ⟨name, fun _ => 0, line⟩
    let messages := heard [(true, "set graph=bar"), (false, "set grid=1,1"), (true, "init"),
      (true, "add_plot")]
    let messages' := heard [(true, "set graph=bar"), (false, "enable_status 1"),
      (false, "set grid=1,1"), (true, "init"), (true, "enable_status maybe"), (true, "add_plot")]
    let start := fresh (fun _ => 0) (Board.create 1 { statusEnabled := false } none)
    let start' := fresh (fun _ => 0) (Board.create 1 { statusCapacity := 1 } none)
    let last := start.hearAll messages
    let last' := start'.hearAll messages'
    common messages = common messages' ∧ last.board.statusLog ≠ last'.board.statusLog ∧
      (last.board.picture? 0).isSome = true ∧ last.board.picture? 0 = last'.board.picture? 0 ∧
      start.observed displayCalls messages = start'.observed displayCalls messages' := by
  intro heard messages messages' start start' last last'
  have hcommon : common messages = common messages' := rfl
  have hsame := status_lines_change_log_alone (fun _ => 0) 1 { statusEnabled := false }
    { statusCapacity := 1 } none none messages messages' rfl (congrArg _ hcommon)
  obtain ⟨-, -, -, -, -, hclocks⟩ := hsame
  obtain ⟨-, -, hpictures, hcalls⟩ := hclocks hcommon
  refine ⟨hcommon, by decide +kernel, by decide +kernel, hpictures 0, hcalls⟩

end SharedBoard

end ChartBoard
