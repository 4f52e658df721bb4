import ChartBoard.Text.Lines
import ChartBoard.Text.Whole

/-!
Reading lines of bounded length. Bytes arrive in chunks, cut anywhere; a line ends with
its newline or with the stream. No more of a line is ever held than the limit and one
byte: a longer line is passed over up to its newline, and the next reading begins on a
fresh line.
-/

namespace ChartBoard

open Text

/-- Bytes on their way to a reader, in the chunks in which they arrive. -/
abbrev Chunks := List (List UInt8)

namespace Chunks

/-- The bytes themselves. -/
def bytes (chunks : Chunks) : List UInt8 := chunks.flatten

/-- Take bytes up to and with the first newline, but at most `most` of them. -/
def takeLine (most : Nat) : Chunks → List UInt8 × Chunks
  | [] => ([], [])
  | chunk :: later =>
      match firstLine? (chunk.take most) with
      | some (line, behind) => (line, (behind ++ chunk.drop most) :: later)
      | none =>
          if most ≤ chunk.length then
            (chunk.take most, chunk.drop most :: later)
          else
            let (line, rest) := takeLine (most - chunk.length) later
            (chunk ++ line, rest)

/-- Pass over all bytes up to and with the first newline. -/
def dropLine : Chunks → Chunks
  | [] => []
  | chunk :: later =>
      match firstLine? chunk with
      | some (_, behind) => behind :: later
      | none => dropLine later

/-- No byte is lost or made up in taking a line. -/
theorem takeLine_append (most : Nat) (chunks : Chunks) :
    (takeLine most chunks).1 ++ (takeLine most chunks).2.bytes = chunks.bytes := by
  induction chunks generalizing most with
  | nil => simp [takeLine, bytes]
  | cons chunk later ih =>
      unfold takeLine
      split
      · rename_i line behind h
        have hline := firstLine?_eq_some h
        simp only [bytes, List.flatten_cons]
        rw [← List.append_assoc, ← List.append_assoc, ← hline, List.take_append_drop]
      · split
        · simp only [bytes, List.flatten_cons]
          rw [← List.append_assoc, List.take_append_drop]
        · simp only [bytes, List.flatten_cons, List.append_assoc]
          exact congrArg _ (ih _)

theorem length_dropLine_le (chunks : Chunks) :
    (dropLine chunks).bytes.length ≤ chunks.bytes.length := by
  induction chunks with
  | nil => simp [dropLine]
  | cons chunk later ih =>
      unfold dropLine
      split
      · rename_i h
        have hchunk := firstLine?_eq_some h
        simp only [bytes, List.flatten_cons, List.length_append, hchunk]
        omega
      · simp only [bytes, List.flatten_cons, List.length_append] at ih ⊢
        omega

end Chunks

/-- What a reading comes upon. -/
inductive LineFound where
  /-- A line within the limit; the buffer holds all of it. -/
  | line
  /-- A line beyond the limit; it has been passed over. -/
  | tooLong
  /-- The end of the stream. -/
  | ended
deriving DecidableEq, Repr

/-- The outcome of a reading, the bytes it held, its newline among them if there was
one, and what is left to read. -/
structure Reading where
  found : LineFound
  buffer : List UInt8
  rest : Chunks
deriving DecidableEq

namespace LineReader

/-- The bytes taken at most for one line. It is a 64-bit word: the largest limit has no
room for one more. -/
def mostTaken (limit : Nat) : Nat := min (limit + 1) (word64 - 1)

/-- Whether a buffer is a line within the limit. -/
def isLine (limit : Nat) (buffer : List UInt8) : Bool :=
  buffer.getLast? == some newline || buffer.length ≤ limit

/-- Read one line. -/
def read (limit : Nat) (chunks : Chunks) : Reading :=
  let (buffer, rest) := chunks.takeLine (mostTaken limit)
  if buffer.isEmpty then
    ⟨.ended, buffer, rest⟩
  else if isLine limit buffer then
    ⟨.line, buffer, rest⟩
  else
    ⟨.tooLong, buffer, rest.dropLine⟩

/-- A reading that does not come upon the end leaves less to read. -/
theorem length_rest_lt {limit : Nat} {chunks : Chunks} (h : (read limit chunks).found ≠ .ended) :
    (read limit chunks).rest.bytes.length < chunks.bytes.length := by
  have happend := congrArg List.length (Chunks.takeLine_append (mostTaken limit) chunks)
  have hdrop := Chunks.length_dropLine_le (chunks.takeLine (mostTaken limit)).2
  rw [List.length_append] at happend
  unfold read at h ⊢
  dsimp only at h ⊢
  by_cases hempty : (chunks.takeLine (mostTaken limit)).1.isEmpty = true
  · simp [hempty] at h
  · have hpos : 0 < (chunks.takeLine (mostTaken limit)).1.length := by
      rw [List.length_pos_iff]
      simpa using hempty
    rw [if_neg hempty]
    split <;> dsimp only <;> omega

end LineReader

end ChartBoard
