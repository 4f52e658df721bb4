import ChartBoard.Proofs.Text.Pieces
import ChartBoard.Server.LineReader

/-!
What a reading comes upon depends on the bytes alone, and not on how they are cut into
chunks. If the first line is within the limit, the reading holds it with its ending; if it
is longer, the reading passes over it; and in both cases the next line is the next to be
read. So a reader comes upon the lines of its bytes one by one.

A reader takes at most one byte more than the limit, but its count is a 64-bit word. That
makes no difference as long as the count has room for the limit and one more, or for the
line and its newline (`Countable`).
-/

namespace ChartBoard

open Text

namespace Text

theorem firstLine?_append (bytes later : List UInt8) :
    firstLine? (bytes ++ later) =
      match firstLine? bytes with
      | some (line, behind) => some (line, behind ++ later)
      | none => (firstLine? later).map fun (line, behind) => (bytes ++ line, behind) := by
  induction bytes with
  | nil => cases h : firstLine? later <;> simp [firstLine?, h]
  | cons byte bytes ih =>
      rw [List.cons_append, firstLine?, firstLine?, ih]
      by_cases hbyte : byte = newline
      · rw [if_pos hbyte, if_pos hbyte]
      · rw [if_neg hbyte, if_neg hbyte]
        cases firstLine? bytes with
        | some found => rfl
        | none => cases firstLine? later <;> rfl

theorem firstLine?_eq_none {bytes : List UInt8} (h : newline ∉ bytes) :
    firstLine? bytes = none := by
  induction bytes with
  | nil => rfl
  | cons byte bytes ih =>
      rw [List.mem_cons, not_or] at h
      rw [firstLine?, if_neg (Ne.symm h.1), ih h.2]
      rfl

theorem firstLine?_newline {piece : List UInt8} (h : newline ∉ piece) (behind : List UInt8) :
    firstLine? (piece ++ [newline] ++ behind) = some (piece ++ [newline], behind) := by
  rw [List.append_assoc, firstLine?_append, firstLine?_eq_none h]
  simp [firstLine?]

end Text

namespace Chunks

/-- What is held of a line: its bytes up to the newline, but at most `most`. -/
def held (most : Nat) (bytes : List UInt8) : List UInt8 :=
  match firstLine? (bytes.take most) with
  | some (line, _) => line
  | none => bytes.take most

theorem takeLine_eq_held (most : Nat) (chunks : Chunks) :
    (takeLine most chunks).1 = held most chunks.bytes := by
  induction chunks generalizing most with
  | nil => simp [takeLine, held, bytes, firstLine?]
  | cons chunk later ih =>
      have hbytes : bytes (chunk :: later) = chunk ++ bytes later := List.flatten_cons
      unfold takeLine held
      rw [hbytes, List.take_append, firstLine?_append]
      cases hfirst : firstLine? (chunk.take most) with
      | some found => rfl
      | none =>
          dsimp only
          by_cases hmost : most ≤ chunk.length
          · rw [if_pos hmost, Nat.sub_eq_zero_of_le hmost, List.take_zero, List.append_nil]
            rfl
          · have hchunk : chunk.take most = chunk := List.take_of_length_le (by omega)
            rw [if_neg hmost, hchunk]
            dsimp only
            rw [ih, held]
            cases firstLine? ((bytes later).take (most - chunk.length)) <;> rfl

theorem bytes_dropLine (chunks : Chunks) :
    (dropLine chunks).bytes = ((firstLine? chunks.bytes).map Prod.snd).getD [] := by
  induction chunks with
  | nil => rfl
  | cons chunk later ih =>
      have hbytes : bytes (chunk :: later) = chunk ++ bytes later := List.flatten_cons
      unfold dropLine
      rw [hbytes, firstLine?_append]
      cases firstLine? chunk with
      | some found => rfl
      | none =>
          dsimp only
          rw [ih]
          cases firstLine? (bytes later) <;> rfl

end Chunks

namespace LineReader

/-- The count of a reader has room for what it has to take of each line. If the limit is
the largest word there is, no line may be so long; and none is that fits into a memory
addressed by such words. -/
def Countable (limit : Nat) (bytes : List UInt8) : Prop :=
  limit + 1 < word64 ∨ ∀ piece ∈ pieces bytes, piece.length + 1 < word64

theorem Countable.of_first {limit : Nat} {bytes piece ending behind : List UInt8}
    (hcount : Countable limit bytes) (h : FirstPiece bytes piece ending behind) :
    (limit + 1 < word64 ∨ piece.length + 1 < word64) ∧ Countable limit behind := by
  rw [Countable, h.pieces_eq] at hcount
  refine ⟨hcount.imp_right fun hall => hall piece List.mem_cons_self, hcount.imp_right ?_⟩
  exact fun hall later hlater => hall later (List.mem_cons_of_mem piece hlater)

theorem read_nil {limit : Nat} {chunks : Chunks} (h : chunks.bytes = []) :
    (read limit chunks).found = .ended := by
  have hheld : (chunks.takeLine (mostTaken limit)).1 = [] := by
    rw [Chunks.takeLine_eq_held, h]
    simp [Chunks.held, firstLine?]
  unfold read
  dsimp only
  rw [hheld]
  rfl

section FirstPiece

variable {limit : Nat} {chunks : Chunks} {piece ending behind : List UInt8}
  (h : FirstPiece chunks.bytes piece ending behind)
  (hcount : limit + 1 < word64 ∨ piece.length + 1 < word64)

include h hcount

theorem held_within (hlength : piece.length ≤ limit) :
    Chunks.held (mostTaken limit) chunks.bytes = piece ++ ending := by
  obtain ⟨hbytes, hfree, hends⟩ := h
  have hmost : (piece ++ ending).length ≤ mostTaken limit := by
    have hending : ending.length ≤ 1 := by
      rcases hends with rfl | ⟨rfl, -, -⟩ <;> simp
    rw [List.length_append, mostTaken]
    omega
  have htake : chunks.bytes.take (mostTaken limit) =
      piece ++ ending ++ behind.take (mostTaken limit - (piece ++ ending).length) := by
    rw [hbytes, List.take_append, List.take_of_length_le hmost]
  unfold Chunks.held
  rw [htake]
  rcases hends with rfl | ⟨rfl, rfl, -⟩
  · rw [firstLine?_newline hfree]
  · rw [List.take_nil, List.append_nil, List.append_nil, firstLine?_eq_none hfree]

theorem held_beyond (hlength : limit < piece.length) :
    Chunks.held (mostTaken limit) chunks.bytes = piece.take (limit + 1) := by
  obtain ⟨hbytes, hfree, -⟩ := h
  have hmost : mostTaken limit = limit + 1 := by
    rw [mostTaken]
    omega
  have htake : chunks.bytes.take (limit + 1) = piece.take (limit + 1) := by
    rw [hbytes, List.append_assoc, List.take_append_of_le_length (by omega)]
  unfold Chunks.held
  rw [hmost, htake, firstLine?_eq_none fun hmem => hfree (List.mem_of_mem_take hmem)]

/-- A first line within the limit is held with its ending, and the bytes behind it are
left. -/
theorem read_within (hlength : piece.length ≤ limit) :
    (read limit chunks).found = .line ∧ (read limit chunks).buffer = piece ++ ending ∧
      (read limit chunks).rest.bytes = behind := by
  have hheld := held_within h hcount hlength
  have hbuffer := Chunks.takeLine_eq_held (mostTaken limit) chunks
  rw [hheld] at hbuffer
  have hrest := Chunks.takeLine_append (mostTaken limit) chunks
  rw [hbuffer, h.bytes_eq] at hrest
  have hnonempty : ¬(piece ++ ending).isEmpty = true := by
    rcases h.ends with hnewline | ⟨-, -, hne⟩
    · simp [hnewline]
    · simp [hne]
  have hline : isLine limit (piece ++ ending) = true := by
    unfold isLine
    rcases h.ends with hnewline | ⟨hnone, -, -⟩
    · simp [hnewline]
    · simp [hnone, hlength]
  unfold read
  dsimp only
  rw [hbuffer, if_neg hnonempty, if_pos hline]
  exact ⟨rfl, rfl, List.append_cancel_left hrest⟩

/-- A first line beyond the limit is passed over. -/
theorem read_beyond (hlength : limit < piece.length) :
    (read limit chunks).found = .tooLong ∧ (read limit chunks).rest.bytes = behind := by
  have hheld := held_beyond h hcount hlength
  have hbuffer := Chunks.takeLine_eq_held (mostTaken limit) chunks
  rw [hheld] at hbuffer
  have htaken : (piece.take (limit + 1)).length = limit + 1 := by
    rw [List.length_take]
    omega
  have hnonempty : ¬(piece.take (limit + 1)).isEmpty = true := by
    rw [List.isEmpty_iff, ← List.length_eq_zero_iff, htaken]
    exact Nat.succ_ne_zero limit
  have hlong : ¬isLine limit (piece.take (limit + 1)) = true := by
    have hlast : (piece.take (limit + 1)).getLast? ≠ some newline := by
      intro hlast
      exact h.free (List.mem_of_mem_take (List.mem_of_getLast? hlast))
    simp [isLine, htaken, hlast]
  have hrest : (chunks.takeLine (mostTaken limit)).2.bytes =
      piece.drop (limit + 1) ++ ending ++ behind := by
    have happend := Chunks.takeLine_append (mostTaken limit) chunks
    have hpiece : piece ++ ending ++ behind =
        piece.take (limit + 1) ++ (piece.drop (limit + 1) ++ ending ++ behind) := by
      rw [← List.append_assoc, ← List.append_assoc, List.take_append_drop]
    rw [hbuffer, h.bytes_eq] at happend
    exact List.append_cancel_left (happend.trans hpiece)
  have hfree : newline ∉ piece.drop (limit + 1) := fun hmem => h.free (List.mem_of_mem_drop hmem)
  unfold read
  dsimp only
  rw [hbuffer, if_neg hnonempty, if_neg hlong]
  refine ⟨rfl, ?_⟩
  dsimp only
  rw [Chunks.bytes_dropLine, hrest]
  rcases h.ends with hnewline | ⟨hnone, hnothing, -⟩
  · rw [hnewline, firstLine?_newline hfree]
    rfl
  · rw [hnone, hnothing, List.append_nil, List.append_nil, firstLine?_eq_none hfree]
    rfl

end FirstPiece

end LineReader

end ChartBoard
