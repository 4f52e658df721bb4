import ChartBoard.Proofs.Session.Turns
import Mathlib.Logic.Function.Basic

/-!
Any number of sessions on one board. The lines given to them come in one order, and each
line is one step: the session that hears it answers and changes, the board changes with
it, and the other sessions stay as they are.

The invariant of all runs is that every session is sound on the board and that no two
sessions hold one generation (`Consistent`). So the session that has shown its chart last
is the only one that owns the slot.
-/

namespace ChartBoard

/-- A line given to a session, with the readings of the clock for it. -/
structure Message (Name : Type) where
  recipient : Name
  clock : Clock
  line : String

/-- Sessions, told apart by their names, and the board that they share. -/
structure SharedBoard (Name : Type) where
  sessions : Name → Session
  board : Board

namespace SharedBoard

variable {Name : Type}

/-- Each session in its slot, before its first line. -/
def fresh (slotOf : Name → Nat) (board : Board) : SharedBoard Name where
  sessions name := { slot := slotOf name }
  board := board

def response (message : Message Name) (state : SharedBoard Name) : Session.Response :=
  (state.sessions message.recipient).respond message.clock message.line state.board

def publishes (message : Message Name) (state : SharedBoard Name) : Bool :=
  (state.sessions message.recipient).publishes message.line state.board

/-- Every session is sound, and a generation belongs to one session at most. -/
structure Consistent (state : SharedBoard Name) : Prop where
  sound : ∀ name, (state.sessions name).Sound state.board
  distinct : ∀ {name other}, name ≠ other → ∀ generation,
    (state.sessions name).generation = some generation →
      (state.sessions other).generation ≠ some generation

theorem consistent_fresh (slotOf : Name → Nat) (board : Board) :
    (fresh slotOf board).Consistent where
  sound name := by
    refine ⟨?_, ?_, ?_, ?_⟩
    · intro chart hchart
      cases hchart
    · intro hfeeding
      cases hfeeding
    · intro generation hgeneration
      cases hgeneration
    · intro chart shown hfeeding
      cases hfeeding
  distinct _ generation hgeneration := by
    cases hgeneration

theorem Consistent.response_cases {state : SharedBoard Name} (h : state.Consistent)
    (message : Message Name) :
    (state.publishes message = true ∧
      (state.sessions message.recipient).Published state.board (state.response message).session
        (state.response message).board) ∨
    state.publishes message = false ∧
      (state.sessions message.recipient).Quiet state.board (state.response message).session
        (state.response message).board :=
  Session.respond_cases (h.sound message.recipient) message.clock message.line

/-- A session that another one has published over does not own the slot they share, and
otherwise its slot shows what it has shown. -/
theorem sound_of_published {session session' other : Session} {board board' : Board}
    (h : session.Published board session' board') (hother : other.Sound board)
    (hdistinct : ∀ generation, session.generation = some generation →
      other.generation ≠ some generation) : other.Sound board' where
  settled := hother.settled
  hasChart := hother.hasChart
  issued generation hgeneration :=
    Nat.lt_of_lt_of_le (hother.issued generation hgeneration) h.generations
  shows chart shown hfeeding hchart howns := by
    obtain ⟨hshown, hgeneration⟩ := howns
    by_cases hslot : other.slot = session.slot
    · have howner := h.owner shown (hslot ▸ hshown)
      rcases h.generation shown.generation howner with hheld | hnew
      · exact absurd hgeneration (hdistinct _ hheld)
      · have hissued := hother.issued _ hgeneration
        omega
    · rw [h.elsewhere other.slot hslot] at hshown
      exact hother.shows chart shown hfeeding hchart ⟨hshown, hgeneration⟩

/-- What a session holds after a line is what it held before, or it is new. -/
theorem generation_of_response {state : SharedBoard Name} (h : state.Consistent)
    (message : Message Name) {generation : Nat}
    (hheld : (state.response message).session.generation = some generation) :
    (state.sessions message.recipient).generation = some generation ∨
      state.board.nextGeneration ≤ generation := by
  rcases h.response_cases message with ⟨_, hpublished⟩ | ⟨_, hquiet⟩
  · rcases hpublished.generation generation hheld with hold | hnew
    · exact .inl hold
    · exact .inr (Nat.le_of_eq hnew.symm)
  · rcases hquiet.generation with hsame | hnone
    · exact .inl (hsame.symm.trans hheld)
    · rw [hnone] at hheld
      cases hheld

variable [DecidableEq Name]

/-- One line is heard. -/
def hear (message : Message Name) (state : SharedBoard Name) : SharedBoard Name where
  sessions := Function.update state.sessions message.recipient (state.response message).session
  board := (state.response message).board

def hearAll (messages : List (Message Name)) (state : SharedBoard Name) : SharedBoard Name :=
  messages.foldl (fun state message => state.hear message) state

theorem hearAll_cons (message : Message Name) (messages : List (Message Name))
    (state : SharedBoard Name) :
    state.hearAll (message :: messages) = (state.hear message).hearAll messages := rfl

theorem hear_recipient (message : Message Name) (state : SharedBoard Name) :
    (state.hear message).sessions message.recipient = (state.response message).session :=
  Function.update_self _ _ _

theorem hear_board (message : Message Name) (state : SharedBoard Name) :
    (state.hear message).board = (state.response message).board := by
  rw [hear]

theorem hear_other {message : Message Name} {name : Name} (hne : name ≠ message.recipient)
    (state : SharedBoard Name) : (state.hear message).sessions name = state.sessions name :=
  Function.update_of_ne hne _ _

theorem Consistent.hear {state : SharedBoard Name} (h : state.Consistent)
    (message : Message Name) : (state.hear message).Consistent where
  sound name := by
    have hcases := h.response_cases message
    rw [hear_board]
    by_cases hname : name = message.recipient
    · subst hname
      rw [hear_recipient]
      rcases hcases with ⟨_, hpublished⟩ | ⟨_, hquiet⟩
      · exact hpublished.sound
      · exact hquiet.sound (h.sound message.recipient)
    · rw [hear_other hname]
      rcases hcases with ⟨_, hpublished⟩ | ⟨_, hquiet⟩
      · exact sound_of_published hpublished (h.sound name) (h.distinct (Ne.symm hname))
      · exact (h.sound name).of_sameSlots hquiet.slots
  distinct := by
    intro name other hne generation hname hother
    -- at most one of the two has heard the line, and what it got is newer than all others hold
    by_cases hfirst : name = message.recipient
    · subst hfirst
      rw [hear_recipient] at hname
      rw [hear_other hne.symm] at hother
      have hissued := (h.sound other).issued generation hother
      rcases generation_of_response h message hname with hold | hnew
      · exact h.distinct hne generation hold hother
      · omega
    · rw [hear_other hfirst] at hname
      have hissued := (h.sound name).issued generation hname
      by_cases hsecond : other = message.recipient
      · subst hsecond
        rw [hear_recipient] at hother
        rcases generation_of_response h message hother with hold | hnew
        · exact h.distinct hne generation hname hold
        · omega
      · rw [hear_other hsecond] at hother
        exact h.distinct hne generation hname hother

theorem Consistent.hearAll {state : SharedBoard Name} (h : state.Consistent)
    (messages : List (Message Name)) : (state.hearAll messages).Consistent := by
  induction messages generalizing state with
  | nil => exact h
  | cons message messages ih =>
      rw [hearAll_cons]
      exact ih (h.hear message)

/-- The states that a board and its sessions reach from their beginning. -/
theorem consistent_reached (slotOf : Name → Nat) (board : Board) (messages : List (Message Name)) :
    ((fresh slotOf board).hearAll messages).Consistent :=
  (consistent_fresh slotOf board).hearAll messages

/-- No session leaves its slot, and the board keeps its size. -/
theorem Consistent.places {state : SharedBoard Name} (h : state.Consistent)
    (message : Message Name) :
    (∀ name, ((state.hear message).sessions name).slot = (state.sessions name).slot) ∧
      (state.hear message).board.slotCount = state.board.slotCount := by
  have hcases := h.response_cases message
  constructor
  · intro name
    by_cases hname : name = message.recipient
    · subst hname
      rw [hear_recipient]
      rcases hcases with ⟨_, hpublished⟩ | ⟨_, hquiet⟩
      · exact hpublished.slot
      · exact hquiet.slot
    · rw [hear_other hname]
  · rw [hear_board]
    rcases hcases with ⟨_, hpublished⟩ | ⟨_, hquiet⟩
    · exact hpublished.slotCount
    · exact hquiet.slots.slotCount

theorem Consistent.places_hearAll {state : SharedBoard Name} (h : state.Consistent)
    (messages : List (Message Name)) :
    (∀ name, ((state.hearAll messages).sessions name).slot = (state.sessions name).slot) ∧
      (state.hearAll messages).board.slotCount = state.board.slotCount := by
  induction messages generalizing state with
  | nil => exact ⟨fun _ => rfl, rfl⟩
  | cons message messages ih =>
      obtain ⟨hslots, hcount⟩ := h.places message
      obtain ⟨hslots', hcount'⟩ := ih (h.hear message)
      exact ⟨fun name => (hslots' name).trans (hslots name), hcount'.trans hcount⟩

/-- After every run the sessions are in their slots on a board of its size. -/
theorem places_reached (slotOf : Name → Nat) (slotCount : Nat) (settings : BoardSettings)
    (window : Option Window) (messages : List (Message Name)) :
    let state := (fresh slotOf (Board.create slotCount settings window)).hearAll messages
    (∀ name, (state.sessions name).slot = slotOf name) ∧ state.board.slotCount = slotCount := by
  intro state
  obtain ⟨hslots, hcount⟩ := (consistent_fresh slotOf
    (Board.create slotCount settings window)).places_hearAll messages
  exact ⟨hslots, hcount.trans List.length_replicate⟩

end SharedBoard

end ChartBoard
