import ChartBoard.Proofs.Session.GridLines
import ChartBoard.Proofs.SharedBoard.Basic

/-!
The grid of a shared board. It starts with one place, and whatever the sessions hear, it has at
least one row and one column and no more places than there are slots. A line for the grid is
accepted exactly if its value is the text of a grid for which the slots are enough
(`SharedBoard.grid_always_fits`).
-/

namespace ChartBoard

theorem Board.gridFits_create {slotCount : Nat} (hslots : 0 < slotCount) (settings : BoardSettings)
    (window : Option Window) : (Board.create slotCount settings window).GridFits where
  rows := Nat.le_refl 1
  columns := Nat.le_refl 1
  area := by
    have hcount : (Board.create slotCount settings window).slotCount = slotCount :=
      List.length_replicate
    rw [hcount]
    exact hslots

namespace SharedBoard

variable {Name : Type} [DecidableEq Name]

theorem gridFits_hearAll {state : SharedBoard Name} (h : state.board.GridFits)
    (messages : List (Message Name)) : (state.hearAll messages).board.GridFits := by
  induction messages generalizing state with
  | nil => exact h
  | cons message messages ih =>
      rw [hearAll_cons]
      apply ih
      rw [hear_board]
      exact Session.gridFits_respond message.line h

/-- On a board with slots the grid fits after every run, and the slots are as many as ever. A line
for the grid is accepted exactly if its value is the text of a grid that fits; then this is the
grid. A grid that is too large and a value that is no grid are refused, each in its own way, and
nothing changes. What stands behind the assignment to the grid is its value. -/
theorem grid_always_fits (slotOf : Name → Nat) (slotCount : Nat) (hslots : 0 < slotCount)
    (settings : BoardSettings) (window : Option Window) (messages : List (Message Name)) :
    let state := (fresh slotOf (Board.create slotCount settings window)).hearAll messages
    (state.board.slotCount = slotCount ∧ 1 ≤ state.board.grid.rows ∧
      1 ≤ state.board.grid.columns ∧
      state.board.grid.rows * state.board.grid.columns ≤ slotCount) ∧
    (∀ name clock line value, Command.read line = .ok (.set SettingName.grid value) →
      let turn := (state.sessions name).process clock line state.board
      (turn.result = .ok () ↔
        ∃ grid, Session.GridText value.toList grid ∧ grid.rows * grid.columns ≤ slotCount) ∧
      (∀ grid, Session.GridText value.toList grid →
        if grid.rows * grid.columns ≤ slotCount then
          turn.board.grid = grid
        else
          turn.result = .error (.gridTooLarge grid.rows grid.columns slotCount) ∧
            turn.board = state.board) ∧
      ((∀ grid, ¬Session.GridText value.toList grid) →
        (∃ text fault, turn.result = .error (.unreadable text fault)) ∧
          turn.board = state.board)) ∧
    ∀ value, ∃ kept,
      Command.read (Keyword.set ++ SettingName.grid ++ "=" ++ value) =
          .ok (.set SettingName.grid kept) ∧
        ∀ grid, Session.GridText kept.toList grid ↔ Session.GridText value.toList grid := by
  intro state
  have hcount : state.board.slotCount = slotCount := (places_reached _ _ _ _ messages).2
  have hfits : state.board.GridFits := gridFits_hearAll (Board.gridFits_create hslots _ _) messages
  refine ⟨⟨hcount, hfits.rows, hfits.columns, hcount ▸ hfits.area⟩, ?_, Session.read_assignedGrid⟩
  intro name clock line value hread turn
  have hturn : turn = (state.sessions name).setGrid value state.board := Session.process_grid hread
  clear_value turn
  subst hturn
  refine ⟨?_, fun grid htext => ?_, fun hnone => ?_⟩
  · rw [Session.setGrid_result_eq_ok_iff, hcount]
    rfl
  · split
    · rename_i hroom
      rw [Session.setGrid_of_text _ htext (hroom.trans_eq hcount.symm)]
    · rename_i hroom
      have hlarge : ¬grid.area ≤ state.board.slotCount := fun harea => hroom (harea.trans_eq hcount)
      rw [Session.setGrid_of_large _ htext hlarge, hcount]
      exact ⟨rfl, rfl⟩
  · obtain ⟨fault, hrefused⟩ := Session.setGrid_of_no_text (state.sessions name) state.board hnone
    rw [hrefused]
    exact ⟨⟨_, fault, rfl⟩, rfl⟩

/-- Two sessions on four slots. A grid with a plus sign, blanks and a needless zero fits; another
one has `2 ^ 64` places, which would be none if they were counted with 64 bits; and a second comma
makes a value no grid. -/
theorem grid_always_fits_four_slots :
    let messages := [(true, "set grid=2,2"), (false, "set grid=5,1")].map fun (name, line) =>
      (⟨name, fun _ => 0, line⟩ : Message Bool)
    let state :=
      (fresh (fun name => if name then 0 else 3) (Board.create 4 {} none)).hearAll messages
    let turn line := (state.sessions false).process (fun _ => 0) line state.board
    0 < 4 ∧ state.board.grid = ⟨2, 2⟩ ∧ state.board.grid.rows * state.board.grid.columns ≤ 4 ∧
      Command.read " set grid = +1 , 04 " = .ok (.set SettingName.grid " +1 , 04") ∧
      (turn " set grid = +1 , 04 ").result = .ok () ∧
      (turn " set grid = +1 , 04 ").board.grid = ⟨1, 4⟩ ∧
      Command.read "set grid=4294967296,4294967296" =
        .ok (.set SettingName.grid "4294967296,4294967296") ∧
      (turn "set grid=4294967296,4294967296").result =
        .error (.gridTooLarge 4294967296 4294967296 4) ∧
      Command.read "set grid=2,2,1" = .ok (.set SettingName.grid "2,2,1") ∧
      (turn "set grid=2,2,1").result ≠ .ok () := by
  intro messages state turn
  obtain ⟨⟨-, -, -, harea⟩, hlines, -⟩ := grid_always_fits (fun name => if name then 0 else 3) 4
    (by decide) {} none messages
  have hsmall : Command.read " set grid = +1 , 04 " = .ok (.set SettingName.grid " +1 , 04") := by
    decide +kernel
  have hlarge : Command.read "set grid=4294967296,4294967296" =
      .ok (.set SettingName.grid "4294967296,4294967296") := by decide +kernel
  have hnone : Command.read "set grid=2,2,1" = .ok (.set SettingName.grid "2,2,1") := by
    decide +kernel
  have hsmallText : Session.GridText " +1 , 04".toList ⟨1, 4⟩ :=
    Session.readGrid_eq_ok_iff.mp (by decide +kernel)
  have hlargeText : Session.GridText "4294967296,4294967296".toList ⟨4294967296, 4294967296⟩ :=
    Session.readGrid_eq_ok_iff.mp (by decide +kernel)
  have hnoText : ∀ grid, ¬Session.GridText "2,2,1".toList grid := by
    intro grid htext
    have hread := Session.readGrid_eq_ok_iff.mpr htext
    have hfault : Session.readGrid "2,2,1" = .error (.notDimension "2,1") := by decide +kernel
    rw [hfault] at hread
    cases hread
  obtain ⟨haccepted, hsets, -⟩ := hlines false (fun _ => 0) _ _ hsmall
  obtain ⟨-, hrefuses, -⟩ := hlines false (fun _ => 0) _ _ hlarge
  obtain ⟨hnotAccepted, -, -⟩ := hlines false (fun _ => 0) _ _ hnone
  refine ⟨by decide, by decide +kernel, harea, hsmall, haccepted.mpr ⟨_, hsmallText, by decide⟩,
    hsets _ hsmallText, hlarge, (hrefuses _ hlargeText).1, hnone, fun hok => ?_⟩
  obtain ⟨grid, htext, -⟩ := hnotAccepted.mp hok
  exact hnoText grid htext

end SharedBoard

end ChartBoard
