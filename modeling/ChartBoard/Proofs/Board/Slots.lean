import ChartBoard.Board.Basic

/-!
What the operations of a board do to its slots. Showing a picture and changing one touch
the slot that they name and no other; the grid, the title and the status log leave all
slots alone. A picture that belongs to the generation that is named follows changes as far
as they fit, and the answer is true if all of them do; other changes are turned away
(`Board.apply_cases`).
-/

namespace ChartBoard.Board

/-- A later board with the same pictures in its slots, which gives out the same
generation next. -/
def SameSlots (before after : Board) : Prop :=
  after.slots = before.slots ∧ after.nextGeneration = before.nextGeneration

theorem SameSlots.refl (board : Board) : board.SameSlots board := ⟨rfl, rfl⟩

theorem SameSlots.trans {first second third : Board} (h : first.SameSlots second)
    (h' : second.SameSlots third) : first.SameSlots third :=
  ⟨h'.1.trans h.1, h'.2.trans h.2⟩

theorem SameSlots.symm {first second : Board} (h : first.SameSlots second) :
    second.SameSlots first :=
  ⟨h.1.symm, h.2.symm⟩

theorem SameSlots.shown? {before after : Board} (h : before.SameSlots after) (slot : Nat) :
    after.shown? slot = before.shown? slot := by
  rw [Board.shown?, Board.shown?, h.1]

theorem SameSlots.slotCount {before after : Board} (h : before.SameSlots after) :
    after.slotCount = before.slotCount := congrArg List.length h.1

theorem sameSlots_echo (lines : List String) (board : Board) :
    board.SameSlots (board.echo lines).board := by
  unfold echo
  split
  · exact ⟨rfl, rfl⟩
  · exact SameSlots.refl board

theorem sameSlots_setGrid (rows columns : Nat) (board : Board) :
    board.SameSlots (board.setGrid rows columns).board := by
  unfold setGrid
  split
  · exact ⟨rfl, rfl⟩
  · exact SameSlots.refl board

theorem sameSlots_setFrameTitle (text : String) (board : Board) :
    board.SameSlots (board.setFrameTitle text).board := ⟨rfl, rfl⟩

theorem sameSlots_setStatusEnabled (enabled : Bool) (board : Board) :
    board.SameSlots (board.setStatusEnabled enabled) := ⟨rfl, rfl⟩

theorem lt_slotCount_of_shown? {slot : Nat} {board : Board} {shown : Shown}
    (h : board.shown? slot = some shown) : slot < board.slotCount := by
  have hentry : board.slots[slot]? = some (some shown) := Option.join_eq_some_iff.mp h
  exact (List.getElem?_eq_some_iff.mp hentry).1

/-- Outside the board nothing is shown. -/
theorem picture?_outside {slot : Nat} {board : Board} (h : ¬slot < board.slotCount) :
    board.picture? slot = none := by
  cases hshown : board.shown? slot with
  | none => rw [picture?, hshown, Option.map_none]
  | some shown => exact absurd (lt_slotCount_of_shown? hshown) h

/-- A new board shows nothing. -/
theorem shown?_create (slotCount : Nat) (settings : BoardSettings) (window : Option Window)
    (slot : Nat) : (create slotCount settings window).shown? slot = none := by
  simp only [shown?, create, List.getElem?_replicate]
  split <;> rfl

/-- The board with something else in one of its slots. -/
def showing (slot : Nat) (shown : Shown) (board : Board) : Board :=
  { board with slots := board.slots.set slot (some shown) }

theorem slotCount_showing (slot : Nat) (shown : Shown) (board : Board) :
    (board.showing slot shown).slotCount = board.slotCount := List.length_set

theorem shown?_showing (shown : Shown) {slot : Nat} {board : Board} (h : slot < board.slotCount) :
    (board.showing slot shown).shown? slot = some shown := by
  have hlt : slot < board.slots.length := h
  simp [shown?, showing, hlt]

theorem shown?_showing_of_ne {slot other : Nat} (shown : Shown) (board : Board) (h : other ≠ slot) :
    (board.showing slot shown).shown? other = board.shown? other := by
  simp [shown?, showing, List.getElem?_set_ne h.symm]

/-- What a slot shows already may be shown there again. -/
theorem showing_eq_self {slot : Nat} {board : Board} {shown : Shown}
    (h : board.shown? slot = some shown) : board.showing slot shown = board := by
  obtain ⟨hlt, hentry⟩ := List.getElem?_eq_some_iff.mp (Option.join_eq_some_iff.mp h)
  rw [showing, ← hentry, List.set_getElem_self]

theorem showing_showing (slot : Nat) (first second : Shown) (board : Board) :
    (board.showing slot first).showing slot second = board.showing slot second := by
  simp [showing, List.set_set]

theorem SameSlots.showing {before after : Board} (h : before.SameSlots after) (slot : Nat)
    (shown : Shown) : (before.showing slot shown).SameSlots (after.showing slot shown) :=
  ⟨congrArg (fun slots => List.set slots slot (some shown)) h.1, h.2⟩

section Attach

variable (slot : Nat) (picture : Picture) (board : Board)

/-- A slot of the board shows the picture under the generation that is given. -/
theorem attach_of_lt {slot : Nat} {board : Board} (h : slot < board.slotCount) :
    board.attach slot picture = ⟨some board.nextGeneration,
      { board.showing slot ⟨board.nextGeneration, picture⟩ with
        nextGeneration := board.nextGeneration + 1 }, [.draw slot picture]⟩ := by
  rw [attach, if_pos h]
  rfl

theorem attach_outside {slot : Nat} {board : Board} (h : ¬slot < board.slotCount) :
    board.attach slot picture = ⟨none, board, []⟩ := by
  rw [attach, if_neg h]

/-- A generation that is given is the next one, and it is not given again. -/
theorem attach_value {generation : Nat} (h : (board.attach slot picture).value = some generation) :
    generation = board.nextGeneration ∧
      (board.attach slot picture).board.nextGeneration = generation + 1 := by
  by_cases hin : slot < board.slotCount
  · rw [attach_of_lt picture hin] at h ⊢
    obtain rfl := Option.some.inj h
    exact ⟨rfl, rfl⟩
  · rw [attach_outside picture hin] at h
    cases h

theorem nextGeneration_le_attach :
    board.nextGeneration ≤ (board.attach slot picture).board.nextGeneration := by
  by_cases hin : slot < board.slotCount
  · rw [attach_of_lt picture hin]
    exact Nat.le_succ _
  · exact Nat.le_of_eq (by rw [attach_outside picture hin])

/-- A picture under the generation that has just been given might have been attached itself. -/
theorem showing_attach (picture' : Picture) {slot : Nat} {board : Board}
    (h : slot < board.slotCount) :
    (board.attach slot picture).board.showing slot ⟨board.nextGeneration, picture'⟩ =
      (board.attach slot picture').board := by
  rw [attach_of_lt picture h, attach_of_lt picture' h]
  simp [showing, List.set_set]

theorem shown?_attach {slot : Nat} {board : Board} (h : slot < board.slotCount) :
    (board.attach slot picture).board.shown? slot = some ⟨board.nextGeneration, picture⟩ := by
  rw [attach_of_lt picture h]
  exact shown?_showing _ h

/-- What the slot shows afterwards, it shows under the generation that is given. -/
theorem attach_owner {shown : Shown}
    (h : (board.attach slot picture).board.shown? slot = some shown) :
    shown = ⟨board.nextGeneration, picture⟩ ∧
      (board.attach slot picture).value = some board.nextGeneration := by
  by_cases hin : slot < board.slotCount
  · refine ⟨Option.some.inj (h.symm.trans (shown?_attach picture hin)), ?_⟩
    rw [attach_of_lt picture hin]
  · rw [attach_outside picture hin] at h
    exact absurd (lt_slotCount_of_shown? h) hin

theorem slotCount_attach : (board.attach slot picture).board.slotCount = board.slotCount := by
  by_cases hin : slot < board.slotCount
  · rw [attach_of_lt picture hin]
    exact slotCount_showing _ _ _
  · rw [attach_outside picture hin]

theorem shown?_attach_of_ne {other : Nat} (h : other ≠ slot) :
    (board.attach slot picture).board.shown? other = board.shown? other := by
  by_cases hin : slot < board.slotCount
  · rw [attach_of_lt picture hin]
    exact shown?_showing_of_ne _ _ h
  · rw [attach_outside picture hin]

end Attach

section Apply

variable (slot generation : Nat) (changes : List Change) (board : Board)

/-- The picture of the generation that owns a slot follows its changes as far as they fit, and is
drawn if they all do. -/
theorem apply_of_owned {slot : Nat} {board : Board} {shown : Shown} {changes : List Change}
    {picture : Picture} {fits : Bool} (h : board.shown? slot = some shown)
    (hfollow : shown.picture.follow changes = (picture, fits)) :
    board.apply slot shown.generation changes =
      ⟨fits, board.showing slot ⟨shown.generation, picture⟩,
        if fits then [.draw slot picture] else []⟩ := by
  unfold apply
  simp only [h, hfollow, if_true]
  rfl

theorem shown?_apply_of_owned {slot : Nat} {board : Board} {shown : Shown} {changes : List Change}
    {picture : Picture} {fits : Bool} (h : board.shown? slot = some shown)
    (hfollow : shown.picture.follow changes = (picture, fits)) :
    (board.apply slot shown.generation changes).board.shown? slot =
      some ⟨shown.generation, picture⟩ := by
  rw [apply_of_owned h hfollow]
  exact shown?_showing _ (lt_slotCount_of_shown? h)

/-- A generation that does not own the slot changes nothing. -/
theorem apply_of_not_owned {slot generation : Nat} {board : Board}
    (h : ∀ shown, board.shown? slot = some shown → shown.generation ≠ generation) :
    board.apply slot generation changes = ⟨false, board, []⟩ := by
  unfold apply
  split
  · rfl
  · rename_i shown hshown
    rw [if_neg (h shown hshown)]

/-- Changes are followed in the slot that is owned, or turned away. -/
theorem apply_cases :
    (∃ before after fits, board.shown? slot = some ⟨generation, before⟩ ∧
      before.follow changes = (after, fits) ∧
      board.apply slot generation changes = ⟨fits, board.showing slot ⟨generation, after⟩,
        if fits then [.draw slot after] else []⟩) ∨
    (∀ shown, board.shown? slot = some shown → shown.generation ≠ generation) ∧
      board.apply slot generation changes = ⟨false, board, []⟩ := by
  by_cases howned : ∃ shown, board.shown? slot = some shown ∧ shown.generation = generation
  · obtain ⟨⟨_, before⟩, hshown, rfl⟩ := howned
    exact .inl ⟨before, _, _, hshown, rfl, apply_of_owned hshown rfl⟩
  · have hforeign : ∀ shown, board.shown? slot = some shown → shown.generation ≠ generation :=
      fun shown hshown heq => howned ⟨shown, hshown, heq⟩
    exact .inr ⟨hforeign, apply_of_not_owned changes hforeign⟩

theorem slotCount_apply :
    (board.apply slot generation changes).board.slotCount = board.slotCount := by
  obtain ⟨_, _, _, -, -, happly⟩ | ⟨-, happly⟩ := apply_cases slot generation changes board
  · rw [happly]
    exact slotCount_showing _ _ _
  · rw [happly]

theorem nextGeneration_apply :
    (board.apply slot generation changes).board.nextGeneration = board.nextGeneration := by
  obtain ⟨_, _, _, -, -, happly⟩ | ⟨-, happly⟩ := apply_cases slot generation changes board
  · rw [happly]
    rfl
  · rw [happly]

theorem shown?_apply_of_ne {other : Nat} (h : other ≠ slot) :
    (board.apply slot generation changes).board.shown? other = board.shown? other := by
  obtain ⟨_, _, _, -, -, happly⟩ | ⟨-, happly⟩ := apply_cases slot generation changes board
  · rw [happly]
    exact shown?_showing_of_ne _ _ h
  · rw [happly]

end Apply

end ChartBoard.Board
