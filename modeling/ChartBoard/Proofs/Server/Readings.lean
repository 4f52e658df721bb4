import ChartBoard.Proofs.Server.Framing
import ChartBoard.Text.Utf8

/-!
Readings one after the other, each with an empty buffer and from where the one before it stopped.
However the bytes of a stream are cut into chunks, there is one reading for each of its lines, in
order, and every later one comes upon the end (`LineReader.readings_frame_lines`). A buffer only
grows during a reading, so the bound on what it holds in the end is one for all the time.
-/

namespace ChartBoard

open Text

namespace Chunks

theorem length_held_le (most : Nat) (bytes : List UInt8) : (held most bytes).length ≤ most := by
  unfold held
  split
  · rename_i line behind hline
    have hlength := congrArg List.length (firstLine?_eq_some hline)
    rw [List.length_take, List.length_append] at hlength
    omega
  · exact List.length_take_le most bytes

end Chunks

namespace LineReader

/-- What is left of a stream after so many readings. -/
def leftAfter (limit : Nat) (chunks : Chunks) : Nat → Chunks
  | 0 => chunks
  | number + 1 => (read limit (leftAfter limit chunks number)).rest

/-- What a reading is to the next line of a stream, or to its end if there is none. It takes the
line with its newline, and nothing of what is behind. -/
inductive Frames (limit : Nat) (left : Chunks) (reading : Reading) : Option (List UInt8) → Prop
  | line {piece ending : List UInt8}
      (hfirst : FirstPiece left.bytes piece ending reading.rest.bytes)
      (hlength : piece.length ≤ limit) (hfound : reading.found = .line)
      (hbuffer : reading.buffer = piece ++ ending) : Frames limit left reading (some piece)
  | tooLong {piece ending : List UInt8}
      (hfirst : FirstPiece left.bytes piece ending reading.rest.bytes)
      (hlength : limit < piece.length) (hfound : reading.found = .tooLong) :
      Frames limit left reading (some piece)
  | ended (hleft : left.bytes = []) (hfound : reading.found = .ended)
      (hbuffer : reading.buffer = []) (hrest : reading.rest.bytes = []) :
      Frames limit left reading none

section OneReading

variable (limit : Nat) {chunks others : Chunks}

theorem buffer_read (chunks : Chunks) :
    (read limit chunks).buffer = Chunks.held (mostTaken limit) chunks.bytes := by
  rw [← Chunks.takeLine_eq_held]
  unfold read
  dsimp only
  split
  · rfl
  · split <;> rfl

/-- A buffer has room for the limit and a newline, and is never filled further. -/
theorem length_buffer_le (chunks : Chunks) : (read limit chunks).buffer.length ≤ limit + 1 := by
  rw [buffer_read]
  exact Nat.le_trans (Chunks.length_held_le _ _) (Nat.min_le_left _ _)

/-- A reading does not depend on how its bytes are cut into chunks. -/
theorem read_congr (h : others.bytes = chunks.bytes) :
    (read limit others).found = (read limit chunks).found ∧
      (read limit others).buffer = (read limit chunks).buffer ∧
      (read limit others).rest.bytes = (read limit chunks).rest.bytes := by
  have htaken : (others.takeLine (mostTaken limit)).1 = (chunks.takeLine (mostTaken limit)).1 := by
    rw [Chunks.takeLine_eq_held, Chunks.takeLine_eq_held, h]
  have hrest : (others.takeLine (mostTaken limit)).2.bytes =
      (chunks.takeLine (mostTaken limit)).2.bytes := by
    have happend := Chunks.takeLine_append (mostTaken limit) others
    rw [h, ← Chunks.takeLine_append (mostTaken limit) chunks, htaken] at happend
    exact List.append_cancel_left happend
  unfold read
  dsimp only
  rw [htaken]
  split
  · exact ⟨rfl, rfl, hrest⟩
  · split
    · exact ⟨rfl, rfl, hrest⟩
    · refine ⟨rfl, rfl, ?_⟩
      dsimp only
      rw [Chunks.bytes_dropLine, Chunks.bytes_dropLine, hrest]

/-- A reading at the end takes nothing. -/
theorem frames_nil (h : chunks.bytes = []) : Frames limit chunks (read limit chunks) none := by
  obtain ⟨hfound, hbuffer, hrest⟩ := read_congr limit (show chunks.bytes = Chunks.bytes [] from h)
  exact .ended h hfound hbuffer hrest

variable {limit} {piece ending behind : List UInt8}

/-- A reading takes the first line, and leaves what is behind it. -/
theorem frames_first (h : FirstPiece chunks.bytes piece ending behind)
    (hcount : limit + 1 < word64 ∨ piece.length + 1 < word64) :
    Frames limit chunks (read limit chunks) (some piece) ∧
      (read limit chunks).rest.bytes = behind := by
  by_cases hlength : piece.length ≤ limit
  · obtain ⟨hfound, hbuffer, hrest⟩ := read_within h hcount hlength
    exact ⟨.line (hrest ▸ h) hlength hfound hbuffer, hrest⟩
  · have hbeyond : limit < piece.length := Nat.lt_of_not_le hlength
    obtain ⟨hfound, hrest⟩ := read_beyond h hcount hbeyond
    exact ⟨.tooLong (hrest ▸ h) hbeyond hfound, hrest⟩

end OneReading

section ManyReadings

variable {limit : Nat} {chunks others : Chunks}

theorem leftAfter_succ (limit : Nat) (chunks : Chunks) (number : Nat) :
    leftAfter limit chunks (number + 1) = leftAfter limit (read limit chunks).rest number := by
  induction number with
  | zero => rfl
  | succ number ih => rw [leftAfter, ih, leftAfter]

theorem bytes_leftAfter_congr (h : others.bytes = chunks.bytes) (number : Nat) :
    (leftAfter limit others number).bytes = (leftAfter limit chunks number).bytes := by
  induction number with
  | zero => exact h
  | succ number ih => exact (read_congr limit ih).2.2

theorem bytes_leftAfter_nil (h : chunks.bytes = []) (number : Nat) :
    (leftAfter limit chunks number).bytes = [] := by
  induction number with
  | zero => exact h
  | succ number ih =>
      have hleft : (leftAfter limit chunks number).bytes = Chunks.bytes [] := ih
      exact (read_congr limit hleft).2.2

/-- The readings of a stream come upon its lines in order. -/
theorem frames_leftAfter (hcount : Countable limit chunks.bytes) (number : Nat) :
    Frames limit (leftAfter limit chunks number) (read limit (leftAfter limit chunks number))
      (pieces chunks.bytes)[number]? := by
  obtain ⟨bytes, hbytes⟩ : ∃ bytes, bytes = chunks.bytes := ⟨_, rfl⟩
  rw [← hbytes] at hcount ⊢
  induction bytes using pieces_induction generalizing chunks number with
  | nil => exact frames_nil limit (bytes_leftAfter_nil hbytes.symm number)
  | line hfirst ih =>
      obtain ⟨hpiece, hbehind⟩ := hcount.of_first hfirst
      obtain ⟨hframes, hrest⟩ := frames_first (hbytes ▸ hfirst) hpiece
      rw [hfirst.pieces_eq]
      cases number with
      | zero => exact hframes
      | succ number =>
          rw [leftAfter_succ, List.getElem?_cons_succ]
          exact ih number hbehind hrest.symm

end ManyReadings

/-- Let a stream be read line by line, under a limit that its lines can be counted to. The readings
are one for each line in order, which takes this line and its newline and holds them if the line is
within the limit; all later ones come upon the end. No buffer holds more than the limit and one
byte. With other chunks of the same bytes the readings are the same. -/
theorem readings_frame_lines {limit : Nat} {chunks : Chunks} (hcount : Countable limit chunks.bytes)
    (number : Nat) :
    let left := leftAfter limit chunks number
    let reading := read limit left
    Frames limit left reading (pieces chunks.bytes)[number]? ∧ reading.buffer.length ≤ limit + 1 ∧
      ∀ others : Chunks, others.bytes = chunks.bytes →
        let again := read limit (leftAfter limit others number)
        again.found = reading.found ∧ again.buffer = reading.buffer ∧
          again.rest.bytes = reading.rest.bytes := by
  intro left reading
  refine ⟨frames_leftAfter hcount number, length_buffer_le limit left, fun others hothers => ?_⟩
  exact read_congr limit (bytes_leftAfter_congr hothers number)

/-- Three lines in three chunks, of which the second is beyond a limit of three bytes, but not
beyond the greatest limit. -/
theorem readings_frame_lines_across_chunks :
    let chunks : Chunks := ["ab", "c\ndef", "g\nh"].map fun text => Utf8.encode text.toList
    let framed (limit number : Nat) (piece : Option String) :=
      let left := leftAfter limit chunks number
      Frames limit left (read limit left) (piece.map fun text => Utf8.encode text.toList)
    Countable 3 chunks.bytes ∧ framed 3 0 (some "abc") ∧ framed 3 1 (some "defg") ∧
      framed 3 2 (some "h") ∧ framed 3 3 none ∧
      Countable (word64 - 1) chunks.bytes ∧ framed (word64 - 1) 1 (some "defg") := by
  intro chunks framed
  have hpieces : pieces chunks.bytes =
      ["abc", "defg", "h"].map fun text => Utf8.encode text.toList := by
    decide +kernel
  have hframed {limit : Nat} (hcount : Countable limit chunks.bytes) (number : Nat) :
      framed limit number ["abc", "defg", "h"][number]? := by
    have hframes := (readings_frame_lines hcount number).1
    rwa [hpieces, List.getElem?_map] at hframes
  have hcount : Countable 3 chunks.bytes := .inl (by decide)
  have hgreatest : Countable (word64 - 1) chunks.bytes := by
    refine .inr ?_
    rw [hpieces]
    decide +kernel
  exact ⟨hcount, hframed hcount 0, hframed hcount 1, hframed hcount 2, hframed hcount 3, hgreatest,
    hframed hgreatest 1⟩

end LineReader

end ChartBoard
