import ChartBoard.Proofs.Protocol.WrittenLines
import ChartBoard.Proofs.Session.Frames
import Mathlib.Data.List.DropRight

/-!
Lines that set the grid. The text of a grid is told without a reader (`GridText`): a comma with a
dimension on either side of it, where all later commas belong to the second dimension. A line with
such a text sets the grid if the slots are enough for it, and every other line for the grid leaves
the board as it is. As dimensions are positive and nothing else lays the grid out, a grid that fits
its board is followed by grids that fit (`Outcome.gridFits`).
-/

namespace ChartBoard

open Text

/-- The number of places of a grid. -/
def Grid.area (grid : Grid) : Nat := grid.rows * grid.columns

/-- The grid is not empty, and there is a slot for each of its places. -/
structure Board.GridFits (board : Board) : Prop where
  rows : 1 ≤ board.grid.rows
  columns : 1 ≤ board.grid.columns
  area : board.grid.area ≤ board.slotCount

theorem Board.GridFits.of_same {before after : Board} (h : before.GridFits)
    (hgrid : after.grid = before.grid) (hslots : after.slotCount = before.slotCount) :
    after.GridFits where
  rows := hgrid ▸ h.rows
  columns := hgrid ▸ h.columns
  area := by
    rw [hgrid, hslots]
    exact h.area

namespace Session

/-- A whole number from one that fits 64 bits, with blanks around it or without. -/
structure DimensionText (text : List Char) (n : Nat) : Prop where
  literal : WholeText (trim text) n
  positive : 1 ≤ n
  fits : n < word64

/-- Rows and columns with a comma between them. There may be more commas behind the first one, but
no dimension is written with a comma. -/
inductive GridText : List Char → Grid → Prop
  | intro {rows columns : List Char} {grid : Grid} (hfirst : ',' ∉ rows)
      (hrows : DimensionText rows grid.rows) (hcolumns : DimensionText columns grid.columns) :
      GridText (rows ++ ',' :: columns) grid

theorem GridText.positive {text : List Char} {grid : Grid} (h : GridText text grid) :
    1 ≤ grid.rows ∧ 1 ≤ grid.columns := by
  cases h with
  | intro _ hrows hcolumns => exact ⟨hrows.positive, hcolumns.positive⟩

theorem readDimension_eq_ok_iff {text : List Char} {n : Nat} :
    readDimension text = .ok n ↔ DimensionText text n := by
  have hfilter : (readNat? word64 (trim text)).filter (fun n => 0 < n) = some n ↔
      DimensionText text n := by
    simp only [Option.filter_eq_some_iff, readNat?_eq_some_iff, decide_eq_true_eq]
    constructor
    · rintro ⟨⟨hliteral, hfits⟩, hpositive⟩
      exact ⟨hliteral, hpositive, hfits⟩
    · rintro ⟨hliteral, hpositive, hfits⟩
      exact ⟨⟨hliteral, hfits⟩, hpositive⟩
  rw [← hfilter]
  unfold readDimension
  cases (readNat? word64 (trim text)).filter fun n => 0 < n <;> simp

/-- Reading a grid accepts exactly its texts. -/
theorem readGrid_eq_ok_iff {value : String} {grid : Grid} :
    readGrid value = .ok grid ↔ GridText value.toList grid := by
  unfold readGrid
  constructor
  · intro h
    split at h
    · cases h
    · rename_i rows columns hsplit
      simp only [bind_eq_ok_iff, pure_eq_ok_iff, readDimension_eq_ok_iff] at h
      obtain ⟨r, hr, c, hc, rfl⟩ := h
      obtain ⟨comma, hcomma, htext, hfree⟩ := splitFirst?_eq_some hsplit
      obtain rfl : comma = ',' := by simpa using hcomma
      rw [htext]
      refine .intro (fun hmem => ?_) hr hc
      simpa using hfree ',' hmem
  · intro h
    generalize value.toList = text at h
    cases h with
    | @intro rows columns _ hfirst hrows hcolumns =>
        have hfree : Free (· == ',') rows := fun c hc =>
          beq_eq_false_iff_ne.mpr fun heq => hfirst (heq ▸ hc)
        rw [splitFirst?_append hfree (by decide)]
        simp only [bind_eq_ok_iff, pure_eq_ok_iff, readDimension_eq_ok_iff]
        exact ⟨grid.rows, hrows, grid.columns, hcolumns, rfl⟩

/-- Blanks behind the text of a grid make no difference. -/
theorem gridText_trimEnd_iff {text : List Char} {grid : Grid} :
    GridText (trimEnd text) grid ↔ GridText text grid := by
  have hdimension {text : List Char} {n : Nat} :
      DimensionText (trimEnd text) n ↔ DimensionText text n := by
    have htrim : trim (trimEnd text) = trim text := trim_dropWhile_reverse (fun _ hc => hc) text
    constructor <;> rintro ⟨hliteral, hpositive, hfits⟩
    · exact ⟨htrim ▸ hliteral, hpositive, hfits⟩
    · exact ⟨htrim.symm ▸ hliteral, hpositive, hfits⟩
  constructor
  · intro h
    obtain ⟨behind, hbehind⟩ : trimEnd text <+: text := List.rdropWhile_prefix isBlank text
    generalize htrimmed : trimEnd text = trimmed at h hbehind
    cases h with
    | @intro rows columns _ hfirst hrows hcolumns =>
        have hcut : text = rows ++ ',' :: (columns ++ behind) := by
          rw [← hbehind, List.append_assoc, List.cons_append]
        rw [hcut, trimEnd_append_cons rows (by decide), List.append_cancel_left_eq,
          List.cons.injEq] at htrimmed
        rw [hcut]
        refine .intro hfirst hrows (hdimension.mp ?_)
        rw [htrimmed.2]
        exact hcolumns
  · intro h
    cases h with
    | @intro rows columns _ hfirst hrows hcolumns =>
        rw [trimEnd_append_cons rows (by decide)]
        exact .intro hfirst hrows (hdimension.mpr hcolumns)

/-- A line that begins with the assignment to the grid is a line for the grid, whatever follows. -/
theorem read_assignedGrid (value : String) : ∃ kept,
    Command.read (Keyword.set ++ SettingName.grid ++ "=" ++ value) =
        .ok (.set SettingName.grid kept) ∧
      ∀ grid, GridText kept.toList grid ↔ GridText value.toList grid := by
  have hline : Keyword.set ++ SettingName.grid ++ "=" ++ value =
      String.ofList (Command.assignmentLine SettingName.grid.toList value.toList) := by
    rw [← String.toList_inj]
    simp [Command.assignmentLine]
  refine ⟨String.ofList (trimEnd value.toList), ?_, fun grid => ?_⟩
  · rw [hline, Command.read_assignmentLine (by decide) (by decide) (by decide),
      String.ofList_toList]
  · rw [String.toList_ofList]
    exact gridText_trimEnd_iff

section Turns

variable {clock : Clock} {session : Session} {board : Board} {value : String} {grid : Grid}

theorem process_grid {line : String}
    (hread : Command.read line = .ok (.set SettingName.grid value)) :
    session.process clock line board = session.setGrid value board := by
  have hgraph : SettingName.grid ≠ SettingName.graph := by decide
  rw [process, hread]
  dsimp only [perform]
  rw [set, if_neg hgraph, if_pos rfl]

/-- The grid is set if there are slots enough for it. -/
theorem setGrid_of_text (session : Session) (h : GridText value.toList grid)
    (hroom : grid.area ≤ board.slotCount) :
    session.setGrid value board =
      ⟨session, { board with grid := grid }, [.layout grid.rows grid.columns], .ok ()⟩ := by
  rw [setGrid, readGrid_eq_ok_iff.mpr h]
  dsimp only
  rw [Board.setGrid, if_pos (show grid.rows * grid.columns ≤ board.slotCount from hroom)]

theorem setGrid_of_large (session : Session) (h : GridText value.toList grid)
    (hroom : ¬grid.area ≤ board.slotCount) :
    session.setGrid value board =
      session.refuse (.gridTooLarge grid.rows grid.columns board.slotCount) board := by
  rw [setGrid, readGrid_eq_ok_iff.mpr h]
  dsimp only
  rw [Board.setGrid, if_neg (show ¬grid.rows * grid.columns ≤ board.slotCount from hroom)]
  rfl

theorem setGrid_of_no_text (session : Session) (board : Board)
    (h : ∀ grid, ¬GridText value.toList grid) : ∃ fault,
    session.setGrid value board =
      session.refuse (.unreadable (Keyword.set ++ SettingName.grid ++ "=" ++ value) fault)
        board := by
  cases hread : readGrid value with
  | ok grid => exact absurd (readGrid_eq_ok_iff.mp hread) (h grid)
  | error fault => exact ⟨fault, by rw [setGrid, hread]⟩

/-- A line for the grid is accepted exactly if its value is the text of a grid that fits. -/
theorem setGrid_result_eq_ok_iff : (session.setGrid value board).result = .ok () ↔
    ∃ grid, GridText value.toList grid ∧ grid.area ≤ board.slotCount := by
  constructor
  · intro hok
    by_cases htext : ∃ grid, GridText value.toList grid
    · obtain ⟨grid, htext⟩ := htext
      by_cases hroom : grid.area ≤ board.slotCount
      · exact ⟨grid, htext, hroom⟩
      · rw [setGrid_of_large session htext hroom] at hok
        cases hok
    · obtain ⟨fault, hrefused⟩ := setGrid_of_no_text session board (not_exists.mp htext)
      rw [hrefused] at hok
      cases hok
  · rintro ⟨grid, htext, hroom⟩
    rw [setGrid_of_text session htext hroom]

/-- No command takes the grid out of its bounds. -/
theorem Outcome.gridFits {command : Command} {turn : Turn}
    (h : session.Outcome clock board command turn) (hfits : board.GridFits) :
    turn.board.GridFits := by
  cases h with
  | refused | ignored | choosesKind | configures | initializes => exact hfits
  | titles | enablesStatus => exact hfits.of_same rfl rfl
  | arranges hread hroom =>
      obtain ⟨hrows, hcolumns⟩ := (readGrid_eq_ok_iff.mp hread).positive
      exact ⟨hrows, hcolumns, hroom⟩
  | @addsPlot _ after =>
      have hkeeps := keepsFrame_present { session with stage := .feeding } board after
      exact hfits.of_same hkeeps.grid hkeeps.slotCount
  | @works _ step _ action =>
      have hkeeps := keepsFrame_withChart session board action step
      exact hfits.of_same hkeeps.grid hkeeps.slotCount

theorem gridFits_respond (line : String) (hfits : board.GridFits) :
    (session.respond clock line board).board.GridFits := by
  have hprocess : (session.process clock (withoutLineEnd line) board).board.GridFits := by
    unfold process
    cases Command.read (withoutLineEnd line) with
    | error refusal => exact hfits
    | ok command => exact (perform_outcome clock session board command).gridFits hfits
  unfold respond
  dsimp only
  exact hprocess.of_same (Board.sameSurroundings_echo _ _).grid (Board.sameSlots_echo _ _).slotCount

end Turns

end Session

end ChartBoard
