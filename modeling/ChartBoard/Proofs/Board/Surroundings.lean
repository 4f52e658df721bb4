import ChartBoard.Proofs.Board.Slots

/-!
What surrounds the pictures of a board: the grid that the slots are laid out in, the title
of the frame, and whether the status log is kept. Showing and changing pictures leaves all
of it alone, and so does writing to the log.
-/

namespace ChartBoard.Board

structure SameSurroundings (before after : Board) : Prop where
  grid : after.grid = before.grid
  frameTitle : after.frameTitle = before.frameTitle
  statusEnabled : after.statusEnabled = before.statusEnabled

theorem SameSurroundings.refl (board : Board) : board.SameSurroundings board := ⟨rfl, rfl, rfl⟩

theorem SameSurroundings.trans {first second third : Board} (h : first.SameSurroundings second)
    (h' : second.SameSurroundings third) : first.SameSurroundings third :=
  ⟨h'.grid.trans h.grid, h'.frameTitle.trans h.frameTitle, h'.statusEnabled.trans h.statusEnabled⟩

theorem sameSurroundings_attach (slot : Nat) (picture : Picture) (board : Board) :
    board.SameSurroundings (board.attach slot picture).board := by
  by_cases hin : slot < board.slotCount
  · rw [attach_of_lt picture hin]
    exact ⟨rfl, rfl, rfl⟩
  · rw [attach_outside picture hin]
    exact SameSurroundings.refl board

theorem sameSurroundings_apply (slot generation : Nat) (changes : List Change) (board : Board) :
    board.SameSurroundings (board.apply slot generation changes).board := by
  obtain ⟨_, _, _, -, -, happly⟩ | ⟨-, happly⟩ := apply_cases slot generation changes board
  · rw [happly]
    exact ⟨rfl, rfl, rfl⟩
  · rw [happly]
    exact SameSurroundings.refl board

theorem sameSurroundings_echo (lines : List String) (board : Board) :
    board.SameSurroundings (board.echo lines).board := by
  unfold echo
  split
  · exact ⟨rfl, rfl, rfl⟩
  · exact SameSurroundings.refl board

end ChartBoard.Board
