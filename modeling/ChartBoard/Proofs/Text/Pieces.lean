import ChartBoard.Text.Lines

/-!
The lines of a list of bytes without their newlines. They are what stands between newlines;
behind the last newline there is one more line only if there is something there. A list of
bytes that is not empty has a first line, and the lines behind it are the others.
-/

namespace ChartBoard.Text

/-- The lines, without their newlines. -/
def pieces (bytes : List UInt8) : List (List UInt8) :=
  let all := bytes.splitOn newline
  if all.getLast? = some [] then all.dropLast else all

/-- A first line, what ends it, and what is behind it: a newline ends a line, or there is
nothing behind. -/
structure FirstPiece (bytes piece ending behind : List UInt8) : Prop where
  bytes_eq : bytes = piece ++ ending ++ behind
  free : newline ∉ piece
  ends : ending = [newline] ∨ ending = [] ∧ behind = [] ∧ piece ≠ []

theorem exists_firstPiece {bytes : List UInt8} (h : bytes ≠ []) :
    ∃ piece ending behind, FirstPiece bytes piece ending behind := by
  induction bytes with
  | nil => exact absurd rfl h
  | cons byte rest ih =>
      by_cases hbyte : byte = newline
      · exact ⟨[], [newline], rest, by rw [hbyte]; rfl, List.not_mem_nil, .inl rfl⟩
      have hfree {piece : List UInt8} (hpiece : newline ∉ piece) : newline ∉ byte :: piece := by
        rw [List.mem_cons, not_or]
        exact ⟨Ne.symm hbyte, hpiece⟩
      by_cases hrest : rest = []
      · rw [hrest]
        exact ⟨[byte], [], [], rfl, hfree List.not_mem_nil, .inr ⟨rfl, rfl, List.cons_ne_nil _ _⟩⟩
      · obtain ⟨piece, ending, behind, hbytes, hpiece, hends⟩ := ih hrest
        refine ⟨byte :: piece, ending, behind, by rw [hbytes]; rfl, hfree hpiece, ?_⟩
        rcases hends with hnewline | ⟨hnone, hnothing, -⟩
        · exact .inl hnewline
        · exact .inr ⟨hnone, hnothing, List.cons_ne_nil _ _⟩

namespace FirstPiece

variable {bytes piece ending behind : List UInt8} (h : FirstPiece bytes piece ending behind)

include h

theorem pieces_eq : pieces bytes = piece :: pieces behind := by
  obtain ⟨rfl, hfree, hends⟩ := h
  rcases hends with rfl | ⟨rfl, rfl, hne⟩
  · have hsplit : (piece ++ [newline] ++ behind).splitOn newline =
        piece :: behind.splitOn newline := by
      rw [List.append_assoc]
      exact List.splitOn_append_cons_self_of_not_mem hfree behind
    have hmore : behind.splitOn newline ≠ [] := List.splitOn_ne_nil newline behind
    unfold pieces
    dsimp only
    rw [hsplit, List.getLast?_cons_of_ne_nil hmore, List.dropLast_cons_of_ne_nil hmore]
    split <;> rfl
  · have hsplit : (piece ++ [] ++ []).splitOn newline = [piece] := by
      rw [List.append_nil, List.append_nil]
      exact List.splitOn_eq_singleton hfree
    unfold pieces
    dsimp only
    rw [hsplit, if_neg]
    · rfl
    · simpa using hne

theorem cutLines_eq : cutLines bytes = (piece ++ ending) :: cutLines behind := by
  obtain ⟨rfl, hfree, hends⟩ := h
  induction piece with
  | nil =>
      rcases hends with rfl | ⟨-, -, hne⟩
      · rfl
      · exact absurd rfl hne
  | cons byte piece ih =>
      rw [List.mem_cons, not_or] at hfree
      rw [List.cons_append, List.cons_append, cutLines, if_neg (Ne.symm hfree.1)]
      by_cases hlast : piece = [] ∧ ending = []
      · obtain ⟨rfl, rfl⟩ := hlast
        rcases hends with hnewline | ⟨-, rfl, -⟩
        · cases hnewline
        · rfl
      · have hends' : ending = [newline] ∨ ending = [] ∧ behind = [] ∧ piece ≠ [] := by
          rcases hends with hnewline | ⟨hnone, hnothing, -⟩
          · exact .inl hnewline
          · exact .inr ⟨hnone, hnothing, fun hempty => hlast ⟨hempty, hnone⟩⟩
        rw [ih hfree.2 hends']

theorem length_behind_lt : behind.length < bytes.length := by
  rw [h.bytes_eq, List.length_append, List.length_append]
  rcases h.ends with hnewline | ⟨-, -, hne⟩
  · rw [hnewline, List.length_singleton]
    omega
  · have hpos := List.length_pos_iff.mpr hne
    omega

end FirstPiece

/-- The pieces of bytes, one after the other: an induction over the lines of a stream. -/
theorem pieces_induction {motive : List UInt8 → Prop} (nil : motive [])
    (line : ∀ {bytes piece ending behind}, FirstPiece bytes piece ending behind → motive behind →
      motive bytes) (bytes : List UInt8) : motive bytes := by
  obtain ⟨n, hn⟩ : ∃ n, n = bytes.length := ⟨_, rfl⟩
  induction n using Nat.strongRecOn generalizing bytes with
  | ind n ih =>
      by_cases hempty : bytes = []
      · rw [hempty]
        exact nil
      · obtain ⟨piece, ending, behind, h⟩ := exists_firstPiece hempty
        exact line h (ih behind.length (hn ▸ h.length_behind_lt) behind rfl)

/-- The first of the lines with their newlines, and the bytes that the others are cut from. -/
theorem exists_firstPiece_of_cutLines {bytes line : List UInt8} {lines : List (List UInt8)}
    (h : cutLines bytes = line :: lines) :
    ∃ piece ending behind, FirstPiece bytes piece ending behind ∧ line = piece ++ ending ∧
      lines = cutLines behind := by
  have hne : bytes ≠ [] := by
    rintro rfl
    cases h
  obtain ⟨piece, ending, behind, hfirst⟩ := exists_firstPiece hne
  obtain ⟨hline, hlines⟩ := List.cons.inj (h.symm.trans hfirst.cutLines_eq)
  exact ⟨piece, ending, behind, hfirst, hline, hlines⟩

/-- What is behind the newline of a line has nothing to do with the lines up to it. -/
theorem cutLines_append_of_newline {bytes line : List UInt8} {before later : List (List UInt8)}
    (h : cutLines bytes = before ++ line :: later) (hline : line.getLast? = some newline)
    (behind : List UInt8) :
    cutLines (before.flatten ++ line ++ behind) = before ++ line :: cutLines behind := by
  induction before generalizing bytes with
  | nil =>
      obtain ⟨piece, ending, rest, hfirst, rfl, -⟩ := exists_firstPiece_of_cutLines h
      rcases hfirst.ends with rfl | ⟨rfl, -, -⟩
      · exact FirstPiece.cutLines_eq ⟨rfl, hfirst.free, .inl rfl⟩
      · rw [List.append_nil] at hline
        exact absurd (List.mem_of_getLast? hline) hfirst.free
  | cons first before ih =>
      obtain ⟨piece, ending, rest, hfirst, rfl, hrest⟩ := exists_firstPiece_of_cutLines h
      rcases hfirst.ends with rfl | ⟨-, rfl, -⟩
      · have hagain : FirstPiece ((piece ++ [newline]) ++ (before.flatten ++ line ++ behind)) piece
            [newline] (before.flatten ++ line ++ behind) := ⟨rfl, hfirst.free, .inl rfl⟩
        rw [List.flatten_cons, List.append_assoc, List.append_assoc, ← List.append_assoc _ line,
          hagain.cutLines_eq, ih hrest.symm, List.cons_append]
      · simp [cutLines] at hrest

/-- No line has a newline in it. -/
theorem newline_not_mem_of_mem_pieces {bytes piece : List UInt8} (h : piece ∈ pieces bytes) :
    newline ∉ piece := by
  induction bytes using pieces_induction with
  | nil => cases h
  | line hfirst ih =>
      rw [hfirst.pieces_eq] at h
      rcases List.mem_cons.mp h with rfl | hlater
      · exact hfirst.free
      · exact ih hlater

end ChartBoard.Text
