import ChartBoard.Proofs.Text.OneLine
import ChartBoard.Text.Lines
import ChartBoard.Text.Utf8

/-!
Lines of bytes and lines of text. Whatever the bytes are, reading them leniently makes an
end of line of a newline byte and of nothing else: no character of several bytes comes out
as one, and a newline breaks off whatever character has been begun.
-/

namespace ChartBoard.Utf8

open Text

/-- A position that bytes lead to. The bits that are there already, or the bounds on the
next byte, keep characters of several bytes out of the range of one byte. -/
def Position.Reached : Position → Prop
  | .between => True
  | .within bits missing low _ => 0x80 ≤ low ∧ 1 ≤ missing ∧ (missing = 1 → 2 ≤ bits) ∧
      (2 ≤ missing → 1 ≤ bits ∨ 0x90 ≤ low)

theorem reached_between : Position.between.Reached := trivial

theorem reached_start (byte : Nat) : (start byte).2.Reached := by
  unfold start
  split
  · trivial
  split
  · trivial
  split
  · exact ⟨Nat.le_refl _, Nat.le_refl _, fun _ => by omega, fun h => by omega⟩
  split
  · refine ⟨by split <;> omega, by omega, fun h => by omega, fun _ => ?_⟩
    split <;> omega
  split
  · refine ⟨by split <;> omega, by omega, fun h => by omega, fun _ => ?_⟩
    split <;> omega
  · trivial

theorem reached_step {position : Position} (h : position.Reached) (byte : Nat) :
    (step position byte).2.Reached := by
  cases position with
  | between => exact reached_start byte
  | within bits missing low high =>
      obtain ⟨hlow, hmissing, hlast, hfirst⟩ := h
      unfold step
      dsimp only
      split
      · rename_i hbyte
        split
        · trivial
        · refine ⟨Nat.le_refl _, by omega, fun _ => ?_, fun _ => .inl ?_⟩
          · rcases hfirst (by omega) with hbits | hbound <;> omega
          · rcases hfirst (by omega) with hbits | hbound <;> omega
      · exact reached_start byte

theorem ofNat_ne_newline {n : Nat} (h : n ≠ 10) : Char.ofNat n ≠ '\n' := by
  intro heq
  by_cases hvalid : n.isValidChar
  · rw [Char.ofNat, dif_pos hvalid] at heq
    have hcode : n = 10 := congrArg Char.toNat heq
    exact h hcode
  · rw [Char.ofNat, dif_neg hvalid] at heq
    exact absurd (congrArg Char.toNat heq) (by decide)

theorem newline_not_found_start {byte : Nat} (h : byte ≠ 10) :
    some '\n' ∉ (start byte).1 := by
  have hchar := ofNat_ne_newline h
  unfold start
  split
  · simpa using hchar.symm
  split
  · simp
  split
  · simp
  split
  · simp
  split
  · simp
  · simp

theorem newline_not_found_step {position : Position} (hreached : position.Reached) {byte : Nat}
    (h : byte ≠ 10) : some '\n' ∉ (step position byte).1 := by
  cases position with
  | between => exact newline_not_found_start h
  | within bits missing low high =>
      obtain ⟨hlow, hmissing, hlast, hfirst⟩ := hreached
      unfold step
      dsimp only
      split
      · split
        · have hbits := hlast (by omega)
          have hcode : 64 * bits + (byte - 0x80) ≠ 10 := by omega
          have hchar := ofNat_ne_newline hcode
          simpa using hchar.symm
        · simp
      · simpa using newline_not_found_start h

theorem newline_not_mem_scan {position : Position} (hreached : position.Reached)
    {bytes : List UInt8} (h : newline ∉ bytes) : some '\n' ∉ scan position bytes := by
  induction bytes generalizing position with
  | nil => cases position <;> simp [scan]
  | cons byte bytes ih =>
      rw [List.mem_cons, not_or] at h
      have hbyte : byte.toNat ≠ 10 := by
        intro heq
        exact h.1 (UInt8.toNat_inj.mp heq.symm)
      rw [scan_cons, List.mem_append, not_or]
      exact ⟨newline_not_found_step hreached hbyte, ih (reached_step hreached _) h.2⟩

/-- Bytes without a newline are a text on one line. -/
theorem oneLine_decodeLossy {bytes : List UInt8} (h : newline ∉ bytes) :
    OneLine (decodeLossy bytes) := by
  intro hc
  obtain ⟨found, hfound, hchar⟩ := List.mem_map.mp hc
  cases found with
  | none => exact absurd hchar (by decide)
  | some c =>
      dsimp only [Option.getD_some] at hchar
      rw [hchar] at hfound
      exact newline_not_mem_scan reached_between h hfound

theorem scan_append_newline {position : Position} (hreached : position.Reached)
    (bytes : List UInt8) :
    scan position (bytes ++ [newline]) = scan position bytes ++ [some '\n'] := by
  induction bytes generalizing position with
  | nil =>
      cases position with
      | between => rfl
      | within bits missing low high =>
          have hlow := hreached.1
          have hnot : ¬(low ≤ newline.toNat ∧ newline.toNat ≤ high) := by
            rintro ⟨hle, -⟩
            exact absurd (Nat.le_trans hlow hle) (by decide)
          rw [List.nil_append, scan_cons, step, if_neg hnot]
          rfl
  | cons byte bytes ih =>
      rw [List.cons_append, scan_cons, scan_cons, ih (reached_step hreached _), List.append_assoc]

theorem decodeLossy_append_newline (bytes : List UInt8) :
    decodeLossy (bytes ++ [newline]) = decodeLossy bytes ++ ['\n'] := by
  rw [decodeLossy, scan_append_newline reached_between, List.map_append]
  rfl

end ChartBoard.Utf8
