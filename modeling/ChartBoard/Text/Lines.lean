/-!
Bytes cut into lines. A line is what comes up to and with a newline; the last one may be
without.
-/

namespace ChartBoard.Text

def newline : UInt8 := 0x0A

/-- The first line, with its newline, and the bytes behind it; nothing if there is no
newline. -/
def firstLine? : List UInt8 → Option (List UInt8 × List UInt8)
  | [] => none
  | byte :: rest =>
      if byte = newline then
        some ([byte], rest)
      else
        (firstLine? rest).map fun (line, behind) => (byte :: line, behind)

/-- All lines, each with its newline. -/
def cutLines : List UInt8 → List (List UInt8)
  | [] => []
  | byte :: rest =>
      if byte = newline then
        [byte] :: cutLines rest
      else
        match cutLines rest with
        | [] => [[byte]]
        | line :: lines => (byte :: line) :: lines

theorem firstLine?_eq_some {bytes line behind : List UInt8}
    (h : firstLine? bytes = some (line, behind)) : bytes = line ++ behind := by
  induction bytes generalizing line with
  | nil => simp [firstLine?] at h
  | cons byte rest ih =>
      unfold firstLine? at h
      split at h
      · simp only [Option.some.injEq, Prod.mk.injEq] at h
        obtain ⟨rfl, rfl⟩ := h
        rfl
      · simp only [Option.map_eq_some_iff, Prod.mk.injEq] at h
        obtain ⟨⟨line', behind'⟩, hrest, rfl, rfl⟩ := h
        simp [ih hrest]

/-- No byte is lost or made up in cutting. -/
theorem flatten_cutLines (bytes : List UInt8) : (cutLines bytes).flatten = bytes := by
  induction bytes with
  | nil => rfl
  | cons byte rest ih =>
      unfold cutLines
      split
      · simp [ih]
      · split
        · rename_i h
          simp [h] at ih
          simp [← ih]
        · rename_i h
          rw [h] at ih
          simpa using ih

end ChartBoard.Text
