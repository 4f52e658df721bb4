import ChartBoard.Proofs.SharedBoard.Basic

/-!
What the slots of a shared board show. A run leaves a list of publications, one for each
line that publishes: the slot of the session and the picture of its chart just after the
line. At every moment each slot shows the last publication in it, and nothing before the
first (`shows_last_published`). It makes no difference that a session which owns its slot
sends only changes: they fit what the slot shows, and they make it what the whole chart
would have made it.
-/

namespace ChartBoard

/-- A command on the plots of a chart that is fed ends in publishing the chart. -/
theorem Session.board_of_onPlots {clock : Clock} {command : Command} {step : Chart → Fed}
    (h : command.onPlots? clock = some step) {session : Session} {chart : Chart}
    (hstage : session.stage = .feeding) (hchart : session.chart = some chart) (board : Board) :
    (session.perform clock command board).board =
      (session.publish (step chart).chart board).board := by
  have hwith : ∀ action, (session.withChart action step board).board =
      (session.publish (step chart).chart board).board := by
    intro action
    unfold withChart
    rw [hchart]
    dsimp only
    rw [if_pos hstage]
  cases command with
  | clear index =>
      obtain rfl := Option.some.inj h
      exact hwith .clearPlot
  | replot index =>
      obtain rfl := Option.some.inj h
      exact hwith .replot
  | data values =>
      obtain rfl := Option.some.inj h
      rw [perform, feed, if_pos hstage]
      exact hwith .addValues
  | comment | set | init | addPlot | enableStatus => cases h

namespace SharedBoard

variable {Name : Type}

/-- The picture that a line publishes, with its slot. -/
def publication? (message : Message Name) (state : SharedBoard Name) :
    Option (Nat × Option Picture) :=
  if state.publishes message then
    some ((state.sessions message.recipient).slot,
      (state.response message).session.chart.map Chart.picture)
  else
    none

/-- The changes that a session sends to a slot it owns fit the picture there, and the
board then shows what it would show if the session sent the whole chart. -/
def ChangesFit (state : SharedBoard Name) : Prop :=
  ∀ name chart shown, (state.sessions name).stage = .feeding →
    (state.sessions name).chart = some chart → (state.sessions name).Owns state.board shown →
    ∀ clock command step, Command.onPlots? clock command = some step →
      let slot := (state.sessions name).slot
      let applied := state.board.apply slot shown.generation (step chart).chart.pending
      applied.value = true ∧
        ((state.sessions name).perform clock command state.board).board = applied.board ∧
        ∀ other, applied.board.picture? other =
          (state.board.attach slot (step chart).chart.picture).board.picture? other

theorem Consistent.changesFit {state : SharedBoard Name} (h : state.Consistent) :
    state.ChangesFit := by
  intro name chart shown hstage hchart howns clock command step hcommand
  have hsound := h.sound name
  have hadvances := Command.advances_onPlots hcommand chart
  obtain ⟨hpending, hfit⟩ := hsound.settled chart hchart
  have hfollow := hadvances.follow_pending hfit hpending
  rw [← hsound.shows chart shown hstage hchart howns] at hfollow
  have hshown := Board.shown?_apply_of_owned howns.1 hfollow
  refine ⟨?_, ?_, ?_⟩
  · rw [Board.apply_of_owned howns.1 hfollow]
  · rw [Session.board_of_onPlots hcommand hstage hchart]
    exact (Session.publish_of_owns howns hfollow).2
  · intro other
    by_cases hother : other = (state.sessions name).slot
    · have hin := Board.lt_slotCount_of_shown? howns.1
      rw [hother, Board.picture?, Board.picture?, hshown, Board.shown?_attach _ hin]
      rfl
    · rw [Board.picture?, Board.picture?, Board.shown?_apply_of_ne _ _ _ _ hother,
        Board.shown?_attach_of_ne _ _ _ hother]

variable [DecidableEq Name]

/-- Whatever a line does, it does to the slot of its session. -/
theorem Consistent.elsewhere {state : SharedBoard Name} (h : state.Consistent)
    (message : Message Name) {slot : Nat} (hne : slot ≠ (state.sessions message.recipient).slot) :
    (state.hear message).board.shown? slot = state.board.shown? slot := by
  rw [hear_board]
  rcases h.response_cases message with ⟨_, hpublished⟩ | ⟨_, hquiet⟩
  · exact hpublished.elsewhere slot hne
  · exact hquiet.slots.shown? slot

/-- All publications of a run in their order. -/
def publications : List (Message Name) → SharedBoard Name → List (Nat × Option Picture)
  | [], _ => []
  | message :: messages, state =>
      (state.publication? message).toList ++ publications messages (state.hear message)

/-- The picture of the chart that a session of the slot has published last. -/
def lastPublished? (slot : Nat) (messages : List (Message Name)) (state : SharedBoard Name) :
    Option (Option Picture) :=
  (((state.publications messages).filter fun p => p.1 = slot).map Prod.snd).getLast?

theorem lastPublished?_cons (slot : Nat) (message : Message Name) (messages : List (Message Name))
    (state : SharedBoard Name) :
    state.lastPublished? slot (message :: messages) =
      ((state.hear message).lastPublished? slot messages).or
        (((state.publication? message).filter fun p => p.1 = slot).map Prod.snd) := by
  have hlast (published : Option (Nat × Option Picture)) :
      ((published.toList.filter fun p => p.1 = slot).map Prod.snd).getLast? =
        (published.filter fun p => p.1 = slot).map Prod.snd := by
    cases published with
    | none => rfl
    | some p => by_cases hp : p.1 = slot <;> simp [hp, Option.filter]
  simp only [lastPublished?, publications, List.filter_append, List.map_append,
    List.getLast?_append, hlast]

/-- One line leaves in a slot what it publishes there, and else what was there. -/
theorem Consistent.picture?_hear {state : SharedBoard Name} (h : state.Consistent)
    (message : Message Name) {slot : Nat} (hslot : slot < state.board.slotCount) :
    ((state.hear message).board.picture? slot).map some =
      (((state.publication? message).filter fun p => p.1 = slot).map Prod.snd).or
        ((state.board.picture? slot).map some) := by
  by_cases hne : slot = (state.sessions message.recipient).slot
  · rcases h.response_cases message with ⟨hpublishes, hpublished⟩ | ⟨hnot, hquiet⟩
    · obtain ⟨chart, hchart, hpicture⟩ := hpublished.shows
      rw [publication?, if_pos hpublishes, hear_board, hne, hpicture (hne ▸ hslot), hchart]
      simp [Option.filter]
    · rw [publication?, hnot, hear_board, Board.picture?, hquiet.slots.shown?]
      rfl
  · have hnone : ((state.publication? message).filter fun p => p.1 = slot).map Prod.snd = none := by
      unfold publication?
      split
      · simp [Option.filter, Ne.symm hne]
      · rfl
    rw [hnone, Board.picture?, h.elsewhere message hne]
    rfl

theorem Consistent.picture?_hearAll {state : SharedBoard Name} (h : state.Consistent)
    (messages : List (Message Name)) {slot : Nat} (hslot : slot < state.board.slotCount) :
    ((state.hearAll messages).board.picture? slot).map some =
      (state.lastPublished? slot messages).or ((state.board.picture? slot).map some) := by
  induction messages generalizing state with
  | nil => rfl
  | cons message messages ih =>
      have hslot' : slot < (state.hear message).board.slotCount := by
        rw [(h.places message).2]
        exact hslot
      rw [hearAll_cons, ih (h.hear message) hslot', h.picture?_hear message hslot,
        lastPublished?_cons, Option.or_assoc]

theorem picture?_create (slotCount : Nat) (settings : BoardSettings) (window : Option Window)
    (slot : Nat) : (Board.create slotCount settings window).picture? slot = none := by
  rw [Board.picture?, Board.shown?_create]
  rfl

/-- After every run each slot shows the chart of the session that has published in it last,
as it was then. No line changes a slot but that of its session, and changes sent by the
owner of a slot always fit. -/
theorem shows_last_published (slotOf : Name → Nat) (slotCount : Nat) (settings : BoardSettings)
    (window : Option Window) (messages : List (Message Name)) :
    let start := fresh slotOf (Board.create slotCount settings window)
    let state := start.hearAll messages
    (∀ slot, slot < slotCount →
      (state.board.picture? slot).map some = start.lastPublished? slot messages) ∧
    (∀ message slot, slot ≠ (state.sessions message.recipient).slot →
      (state.hear message).board.shown? slot = state.board.shown? slot) ∧
    state.ChangesFit := by
  intro start state
  have hstart : start.Consistent := consistent_fresh slotOf _
  have hstate : state.Consistent := hstart.hearAll messages
  refine ⟨?_, fun message slot hne => hstate.elsewhere message hne, hstate.changesFit⟩
  intro slot hslot
  have hcount : start.board.slotCount = slotCount := List.length_replicate
  have hempty : start.board.picture? slot = none := picture?_create _ _ _ slot
  have hshows := hstart.picture?_hearAll messages (by rw [hcount]; exact hslot)
  rw [hempty, Option.map_none, Option.or_none] at hshows
  exact hshows

/-- A session shows two bars in a slot that another session has taken in between, and owns
it again. -/
theorem shows_last_published_taken_back :
    let lines := [(true, "set graph=bar"), (true, "init"), (true, "add_plot"),
      (false, "set graph=dial"), (false, "init"), (false, "add_plot"), (true, "5"), (true, "3")]
    let messages := lines.map fun (name, line) => (⟨name, fun _ => 0, line⟩ : Message Bool)
    let start := fresh (fun _ => 0) (Board.create 2 {} none)
    let state := start.hearAll messages
    (0 < 2 ∧ (state.board.picture? 0).map some = start.lastPublished? 0 messages) ∧
    (1 ≠ (state.sessions true).slot ∧
      (state.hear ⟨true, fun _ => 0, "replot 0"⟩).board.shown? 1 = state.board.shown? 1) ∧
    (state.ChangesFit ∧ (state.sessions true).stage = .feeding ∧
      (state.sessions true).generation = (state.board.shown? 0).map Shown.generation) ∧
    (state.board.picture? 0).map (fun picture => picture.plots.map Plot.data) =
      some [.points [⟨.ofNat 1, .ofNat 5⟩, ⟨.ofNat 2, .ofNat 3⟩]] := by
  intro lines messages start state
  obtain ⟨hshows, helsewhere, hfit⟩ := shows_last_published (fun _ => 0) 2 {} none messages
  have hslot : 1 ≠ (state.sessions true).slot := by decide +kernel
  refine ⟨⟨by decide, hshows 0 (by decide)⟩, ⟨hslot, helsewhere _ 1 hslot⟩, ⟨hfit, ?_, ?_⟩, ?_⟩
  · decide +kernel
  · decide +kernel
  · decide +kernel

end SharedBoard

end ChartBoard
