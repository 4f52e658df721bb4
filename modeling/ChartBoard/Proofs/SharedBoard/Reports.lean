import ChartBoard.Proofs.Session.Reports
import ChartBoard.Proofs.SharedBoard.Display
import ChartBoard.Proofs.SharedBoard.StatusLines

/-!
A display that follows a shared board. It hears of every line what the board says of it, and
nothing else. Whatever sessions there are and in whatever order their lines come, it shows what is
on the board after each of them (`display_shows_board`): a line draws once at most, in the slot of
its session, and never less than what it has changed there.
-/

namespace ChartBoard.SharedBoard

variable {Name : Type}

/-- What the display is told upon a line. -/
def told (_ : Message Name) (response : Session.Response) : List BoardEvent := response.events

/-- A line that publishes in a slot of the board draws what the slot shows then. -/
theorem Consistent.drawings_published {state : SharedBoard Name} (h : state.Consistent)
    {message : Message Name} (hpublishes : state.publishes message = true)
    (hin : (state.sessions message.recipient).slot < state.board.slotCount) :
    ∃ picture, drawings (state.response message).events =
        [((state.sessions message.recipient).slot, picture)] ∧
      (state.response message).board.picture? (state.sessions message.recipient).slot =
        some picture := by
  rcases h.response_cases message with ⟨_, hpublished⟩ | ⟨hnot, _⟩
  · rcases Session.draws_respond (h.sound message.recipient) message.clock message.line with
      ⟨_, hdraws⟩ | ⟨hnot, _⟩
    · exact hpublished.drawings hdraws hin
    · cases hpublishes.symm.trans hnot
  · cases hpublishes.symm.trans hnot

/-- Any other line draws nothing. -/
theorem Consistent.drawings_quiet {state : SharedBoard Name} (h : state.Consistent)
    {message : Message Name} (hnot : ¬(state.publishes message = true ∧
      (state.sessions message.recipient).slot < state.board.slotCount)) :
    drawings (state.response message).events = [] := by
  rcases Session.draws_respond (h.sound message.recipient) message.clock message.line with
    ⟨hpublishes, hdraws⟩ | ⟨_, hnone⟩
  · exact hdraws.outside fun hin => hnot ⟨hpublishes, hin⟩
  · exact hnone

variable [DecidableEq Name]

/-- A display that shows what is on the board at first shows what is on it in the end. -/
theorem Consistent.reports_hearAll {state : SharedBoard Name} (h : state.Consistent)
    (messages : List (Message Name)) :
    state.board.Reports (state.observed told messages) (state.hearAll messages).board := by
  induction messages generalizing state with
  | nil => exact .refl _
  | cons message messages ih =>
      rw [observed, hearAll_cons]
      have hline := Session.reports_respond (h.sound message.recipient) message.clock message.line
      refine .trans ?_ (ih (h.hear message))
      rw [hear_board]
      exact hline

/-- After every run the display shows in each slot the picture that the board has there, in the
layout of the board and under its title. A further line draws one picture if it publishes in a slot
of the board, which the board then shows there, and no picture if it does not; and a line that is
refused says nothing of the layout and the title. -/
theorem display_shows_board (slotOf : Name → Nat) (slotCount : Nat) (settings : BoardSettings)
    (window : Option Window) (messages : List (Message Name)) :
    let start := fresh slotOf (Board.create slotCount settings window)
    let state := start.hearAll messages
    let events := start.observed told messages
    (∀ slot, lastDrawn? slot events = state.board.picture? slot) ∧
    state.board.grid = (lastLayout? events).getD {} ∧
    state.board.frameTitle = (lastTitle? events).getD settings.frameTitle ∧
    ∀ message, let response := state.response message
      let slot := slotOf message.recipient
      (state.publishes message = true → slot < slotCount → ∃ picture,
        drawings response.events = [(slot, picture)] ∧
          response.board.picture? slot = some picture) ∧
      (¬(state.publishes message = true ∧ slot < slotCount) → drawings response.events = []) ∧
      ∀ text, response.reply = .error text → frameEvents response.events = [] := by
  intro start state events
  have hstart : start.Consistent := consistent_fresh slotOf _
  have hstate : state.Consistent := hstart.hearAll messages
  obtain ⟨hslots, hcount⟩ := places_reached slotOf slotCount settings window messages
  have hreports : start.board.Reports events state.board := hstart.reports_hearAll messages
  have hgrid : start.board.grid = {} := rfl
  have htitle : start.board.frameTitle = settings.frameTitle := rfl
  refine ⟨fun slot => ?_, hgrid ▸ hreports.grid, htitle ▸ hreports.frameTitle, fun message => ?_⟩
  · have hempty : start.board.picture? slot = none := picture?_create _ _ _ slot
    rw [hreports.pictures, hempty, Option.or_none]
  · intro response slot
    have hslot : (state.sessions message.recipient).slot = slot := hslots message.recipient
    refine ⟨fun hpublishes hin => ?_, fun hnot => hstate.drawings_quiet ?_, fun text hrefused => ?_⟩
    · have hdrawn := hstate.drawings_published hpublishes (by rw [hslot, hcount]; exact hin)
      rwa [hslot] at hdrawn
    · rwa [hslot, hcount]
    · exact Session.frameEvents_respond_of_error hrefused

/-- Two sessions of one slot. The first goes on with its bars after the second has shown a dial, so
that its next line is drawn as a whole; then a line is refused after half of it, and a grid as a
whole. -/
theorem display_shows_board_taken_over :
    let heard : Bool × String → Message Bool := fun (name, line) => ⟨name, fun _ => 0, line⟩
    let messages := [(true, "set graph=bar"), (true, "init"), (true, "add_plot"), (true, "5"),
      (false, "set graph=dial"), (false, "set grid=1,2"), (false, "init"),
      (false, "add_plot")].map heard
    let start := fresh (fun _ => 0) (Board.create 2 {} none)
    let state := start.hearAll messages
    let events := start.observed told messages
    let values := heard (true, "3 4")
    let grid := heard (false, "set grid=2,2")
    (drawings events).length = 3 ∧ lastDrawn? 0 events = state.board.picture? 0 ∧
      lastLayout? events = some ⟨1, 2⟩ ∧ state.board.grid = ⟨1, 2⟩ ∧
      (state.response values).reply ≠ .ok ∧
      (∃ picture, drawings (state.response values).events = [(0, picture)] ∧
        (state.response values).board.picture? 0 = some picture) ∧
      (state.response grid).reply ≠ .ok ∧ drawings (state.response grid).events = [] ∧
      frameEvents (state.response grid).events = [] := by
  intro heard messages start state events values grid
  obtain ⟨hdrawn, -, -, hlines⟩ := display_shows_board (fun _ => 0) 2 {} none messages
  have hrefused : (state.response grid).reply =
      .error "cannot have a chart grid of 2 by 2 as the max chart count is 2" := by decide +kernel
  refine ⟨by decide +kernel, hdrawn 0, by decide +kernel, by decide +kernel,
    by decide +kernel, ?_, ?_, ?_, ?_⟩
  · exact (hlines values).1 (by decide +kernel) (by decide)
  · rw [hrefused]
    exact Reply.noConfusion
  · exact (hlines grid).2.1 (by decide +kernel)
  · exact (hlines grid).2.2 _ hrefused

end ChartBoard.SharedBoard
