/-!
Blank characters, and the ways of cutting text at them and at separators.
Lines are worked on as lists of characters; the pieces of a cut, put together
again with what separated them, are the text that was cut.
-/

namespace ChartBoard.Text

/-- Closed ranges of the code points with the property White_Space, ascending
and apart. -/
def blankRanges : List (Nat × Nat) :=
  [(0x09, 0x0D), (0x20, 0x20), (0x85, 0x85), (0xA0, 0xA0), (0x1680, 0x1680),
    (0x2000, 0x200A), (0x2028, 0x2029), (0x202F, 0x202F), (0x205F, 0x205F),
    (0x3000, 0x3000)]

/-- Whether a code point lies in one of some closed ranges. -/
def inRanges (ranges : List (Nat × Nat)) (code : Nat) : Bool :=
  ranges.any fun range => range.1 ≤ code && code ≤ range.2

/-- The characters that separate words and are trimmed from lines and fields. -/
def isBlank (c : Char) : Bool := inRanges blankRanges c.toNat

def trimStart (text : List Char) : List Char := text.dropWhile isBlank

def trimEnd (text : List Char) : List Char :=
  (text.reverse.dropWhile isBlank).reverse

def trim (text : List Char) : List Char := trimEnd (trimStart text)

/-- Cut at every separator. A text with `n` separators has `n + 1` pieces, some
of them possibly empty. -/
def split (separates : Char → Bool) : List Char → List (List Char)
  | [] => [[]]
  | c :: text =>
      if separates c then
        [] :: split separates text
      else
        match split separates text with
        | [] => [[c]]
        | piece :: pieces => (c :: piece) :: pieces

/-- The pieces between separators that are not empty. -/
def tokens (separates : Char → Bool) (text : List Char) : List (List Char) :=
  (split separates text).filter fun piece => !piece.isEmpty

/-- The words of a line: its longest runs without a blank. -/
def words (text : List Char) : List (List Char) := tokens isBlank text

/-- The texts before and after the first separator. -/
def splitFirst? (separates : Char → Bool) : List Char → Option (List Char × List Char)
  | [] => none
  | c :: text =>
      if separates c then
        some ([], text)
      else
        (splitFirst? separates text).map fun (before, after) => (c :: before, after)

/-- No piece of a cut holds a separator. -/
theorem not_separates_of_mem_split (separates : Char → Bool) (text : List Char)
    (piece : List Char) (hpiece : piece ∈ split separates text) (c : Char)
    (hc : c ∈ piece) : separates c = false := by
  induction text generalizing piece with
  | nil => simp_all [split]
  | cons d text ih =>
      unfold split at hpiece
      split at hpiece
      · rcases List.mem_cons.1 hpiece with rfl | h
        · simp at hc
        · exact ih piece h hc
      · split at hpiece
        · simp_all
        · rename_i first rest hsplit
          rcases List.mem_cons.1 hpiece with rfl | h
          · rcases List.mem_cons.1 hc with rfl | h'
            · simp_all
            · exact ih first (by simp [hsplit]) h'
          · exact ih piece (by simp [hsplit, h]) hc

theorem splitFirst?_eq_some {separates : Char → Bool} {text before after : List Char}
    (h : splitFirst? separates text = some (before, after)) :
    ∃ c, separates c = true ∧ text = before ++ c :: after ∧
      ∀ d ∈ before, separates d = false := by
  induction text generalizing before with
  | nil => simp [splitFirst?] at h
  | cons c text ih =>
      unfold splitFirst? at h
      split at h
      · rename_i hc
        simp only [Option.some.injEq, Prod.mk.injEq] at h
        obtain ⟨rfl, rfl⟩ := h
        exact ⟨c, hc, by simp, by simp⟩
      · rename_i hc
        simp only [Option.map_eq_some_iff, Prod.mk.injEq] at h
        obtain ⟨⟨before', after'⟩, hsplit, rfl, rfl⟩ := h
        obtain ⟨d, hd, rfl, hbefore⟩ := ih hsplit
        refine ⟨d, hd, by simp, ?_⟩
        intro e he
        rcases List.mem_cons.1 he with rfl | he'
        · simpa using hc
        · exact hbefore e he'

end ChartBoard.Text
