import ChartBoard.Proofs.Board.Slots
import ChartBoard.Proofs.Session.Frames

/-!
What a display makes of the events that it is told. It shows in each slot the picture that it
was told to draw there last, in the layout and under the title that it was told last. The events
of a board are reported faithfully if a display that shows what was on the board before shows
afterwards what is on it then (`Board.Reports`). A board that changes a picture only in part draws
nothing, so `Board.apply` is left out here: its reports are faithful only if all its changes fit.
-/

namespace ChartBoard

namespace BoardEvent

def drawn? : BoardEvent → Option (Nat × Picture)
  | draw slot picture => some (slot, picture)
  | _ => none

def laidOut? : BoardEvent → Option Grid
  | layout rows columns => some ⟨rows, columns⟩
  | _ => none

def titled? : BoardEvent → Option String
  | title text => some text
  | _ => none

end BoardEvent

/-- The pictures that are drawn, each with its slot. -/
def drawings (events : List BoardEvent) : List (Nat × Picture) := events.filterMap BoardEvent.drawn?

def lastDrawn? (slot : Nat) (events : List BoardEvent) : Option Picture :=
  (((drawings events).filter fun drawing => drawing.1 = slot).map Prod.snd).getLast?

def lastLayout? (events : List BoardEvent) : Option Grid :=
  (events.filterMap BoardEvent.laidOut?).getLast?

def lastTitle? (events : List BoardEvent) : Option String :=
  (events.filterMap BoardEvent.titled?).getLast?

section Append

variable (events later : List BoardEvent)

@[simp] theorem drawings_append : drawings (events ++ later) = drawings events ++ drawings later :=
  List.filterMap_append

theorem lastDrawn?_append (slot : Nat) :
    lastDrawn? slot (events ++ later) = (lastDrawn? slot later).or (lastDrawn? slot events) := by
  simp only [lastDrawn?, drawings_append, List.filter_append, List.map_append, List.getLast?_append]

theorem lastLayout?_append :
    lastLayout? (events ++ later) = (lastLayout? later).or (lastLayout? events) := by
  simp only [lastLayout?, List.filterMap_append, List.getLast?_append]

theorem lastTitle?_append :
    lastTitle? (events ++ later) = (lastTitle? later).or (lastTitle? events) := by
  simp only [lastTitle?, List.filterMap_append, List.getLast?_append]

end Append

section Silent

variable {events : List BoardEvent}

theorem lastDrawn?_of_none (h : drawings events = []) (slot : Nat) :
    lastDrawn? slot events = none := by
  rw [lastDrawn?, h]
  rfl

theorem lastDrawn?_of_single {slot : Nat} {picture : Picture}
    (h : drawings events = [(slot, picture)])
    (other : Nat) : lastDrawn? other events = if slot = other then some picture else none := by
  rw [lastDrawn?, h]
  by_cases hslot : slot = other <;> simp [hslot]

/-- Events that do not concern the frame say nothing of its layout and its title. -/
theorem last?_of_frameEvents (h : frameEvents events = []) :
    lastLayout? events = none ∧ lastTitle? events = none := by
  have hother : ∀ event ∈ events, event.isFrame = false := by
    intro event hevent
    simpa using List.filter_eq_nil_iff.mp h event hevent
  have hlayouts : events.filterMap BoardEvent.laidOut? = [] := by
    refine List.filterMap_eq_nil_iff.mpr fun event hevent => ?_
    have hframe := hother event hevent
    cases event <;> first | rfl | cases hframe
  have htitles : events.filterMap BoardEvent.titled? = [] := by
    refine List.filterMap_eq_nil_iff.mpr fun event hevent => ?_
    have hframe := hother event hevent
    cases event <;> first | rfl | cases hframe
  rw [lastLayout?, lastTitle?, hlayouts, htitles]
  exact ⟨rfl, rfl⟩

end Silent

namespace Board

/-- Events that lead a display from what is on one board to what is on another. -/
structure Reports (before : Board) (events : List BoardEvent) (after : Board) : Prop where
  pictures : ∀ slot, after.picture? slot = (lastDrawn? slot events).or (before.picture? slot)
  grid : after.grid = (lastLayout? events).getD before.grid
  frameTitle : after.frameTitle = (lastTitle? events).getD before.frameTitle

theorem Reports.refl (board : Board) : board.Reports [] board := ⟨fun _ => rfl, rfl, rfl⟩

theorem Reports.trans {first second third : Board} {events later : List BoardEvent}
    (h : first.Reports events second) (h' : second.Reports later third) :
    first.Reports (events ++ later) third where
  pictures slot := by
    rw [h'.pictures, h.pictures, lastDrawn?_append, Option.or_assoc]
  grid := by
    rw [h'.grid, h.grid, lastLayout?_append]
    cases lastLayout? later <;> rfl
  frameTitle := by
    rw [h'.frameTitle, h.frameTitle, lastTitle?_append]
    cases lastTitle? later <;> rfl

section Operations

variable (board : Board)

@[simp] theorem drawings_attach (slot : Nat) (picture : Picture) :
    drawings (board.attach slot picture).events =
      if slot < board.slotCount then [(slot, picture)] else [] := by
  unfold attach
  split <;> rfl

@[simp] theorem drawings_echo (lines : List String) : drawings (board.echo lines).events = [] := by
  unfold echo
  split
  · refine List.filterMap_eq_nil_iff.mpr fun event hevent => ?_
    obtain ⟨line, -, rfl⟩ := List.mem_map.mp hevent
    rfl
  · rfl

/-- The lines of the log leave the display of the pictures and of the frame as it is. -/
theorem reports_echo (lines : List String) :
    board.Reports (board.echo lines).events (board.echo lines).board := by
  obtain ⟨hlayout, htitle⟩ := last?_of_frameEvents (frameEvents_echo lines board)
  have hsame := sameSurroundings_echo lines board
  refine ⟨fun slot => ?_, ?_, ?_⟩
  · rw [lastDrawn?_of_none (drawings_echo board lines), Option.none_or, picture?,
      (sameSlots_echo lines board).shown?]
    rfl
  · rw [hlayout, hsame.grid]
    rfl
  · rw [htitle, hsame.frameTitle]
    rfl

/-- Changes that are followed to the end are drawn. -/
theorem drawings_apply_of_owned {slot : Nat} {shown : Shown} {changes : List Change}
    {picture : Picture} {board : Board} (h : board.shown? slot = some shown)
    (hfollow : shown.picture.follow changes = (picture, true)) :
    drawings (board.apply slot shown.generation changes).events = [(slot, picture)] := by
  rw [apply_of_owned h hfollow]
  rfl

end Operations

end Board

end ChartBoard
