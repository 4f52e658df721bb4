import ChartBoard.Proofs.Text.Cutting
import Mathlib.Data.List.Induction

/-!
Cutting a text is splitting it as a list, and the tokens of a text are its longest runs without a
separator. Separators at the ends of a text therefore add no token, and trimming a line leaves its
words as they are. A text is without tokens exactly if it holds nothing but separators.
-/

namespace ChartBoard.Text

theorem split_eq_splitOnP (separates : Char → Bool) (text : List Char) :
    split separates text = text.splitOnP separates := by
  induction text with
  | nil => rw [split, List.splitOnP_nil]
  | cons c text ih =>
      rw [split, List.splitOnP_cons_eq_if_modifyHead, ih]
      cases separates c with
      | true => rfl
      | false =>
          cases hpieces : text.splitOnP separates with
          | nil => exact absurd hpieces (List.splitOnP_ne_nil separates text)
          | cons piece pieces => rfl

theorem split_eq_splitOn (separator : Char) (text : List Char) :
    split (· == separator) text = text.splitOn separator :=
  split_eq_splitOnP _ text

/-- The longest parts of a text without a separator in them. -/
def runs (separates : Char → Bool) (text : List Char) : List (List Char) :=
  (text.splitOnP separates).filter fun piece => !piece.isEmpty

section Tokens

variable {separates : Char → Bool}

theorem tokens_eq (text : List Char) : tokens separates text = runs separates text := by
  rw [tokens, split_eq_splitOnP, runs]

@[simp] theorem tokens_nil : tokens separates [] = [] := rfl

/-- A separator ends the token before it. -/
theorem tokens_append_cons (front back : List Char) {c : Char} (h : separates c = true) :
    tokens separates (front ++ c :: back) = tokens separates front ++ tokens separates back := by
  simp only [tokens_eq, runs, List.splitOnP_append_cons front back h, List.filter_append]

theorem tokens_cons {c : Char} (h : separates c = true) (text : List Char) :
    tokens separates (c :: text) = tokens separates text := by
  simpa using tokens_append_cons [] text h

theorem tokens_concat (text : List Char) {c : Char} (h : separates c = true) :
    tokens separates (text ++ [c]) = tokens separates text := by
  simpa using tokens_append_cons text [] h

/-- What begins with no separator begins with a token. -/
theorem exists_token {c : Char} (h : separates c = false) (text : List Char) :
    ∃ rest later, tokens separates (c :: text) = (c :: rest) :: later := by
  rw [tokens, split, if_neg (by simp [h])]
  cases split separates text with
  | nil => exact ⟨[], [], rfl⟩
  | cons piece pieces => exact ⟨piece, pieces.filter fun piece => !piece.isEmpty, rfl⟩

/-- A character in front of the first token is a separator. -/
theorem head?_token {c : Char} (h : separates c = false) {text token : List Char}
    {later : List (List Char)} (htokens : tokens separates (c :: text) = token :: later) :
    token.head? = some c := by
  obtain ⟨rest, others, hfirst⟩ := exists_token h text
  rw [hfirst] at htokens
  cases htokens
  rfl

theorem tokens_eq_nil_iff {text : List Char} :
    tokens separates text = [] ↔ ∀ c ∈ text, separates c = true := by
  induction text with
  | nil => simp
  | cons c text ih =>
      cases hc : separates c with
      | true => simp [tokens_cons hc, ih, hc]
      | false =>
          obtain ⟨rest, later, htokens⟩ := exists_token hc text
          simp [htokens, hc]

section Dropped

variable {drops : Char → Bool} (hdrops : ∀ c, drops c = true → separates c = true)

include hdrops

theorem tokens_dropWhile (text : List Char) :
    tokens separates (text.dropWhile drops) = tokens separates text := by
  induction text with
  | nil => rfl
  | cons c text ih =>
      rw [List.dropWhile_cons]
      split
      · rename_i hc
        rw [ih, tokens_cons (hdrops c hc)]
      · rfl

theorem tokens_dropWhile_reverse (text : List Char) :
    tokens separates (text.reverse.dropWhile drops).reverse = tokens separates text := by
  induction text using List.reverseRecOn with
  | nil => rfl
  | append_singleton text c ih =>
      rw [List.reverse_concat, List.dropWhile_cons]
      split
      · rename_i hc
        rw [ih, tokens_concat text (hdrops c hc)]
      · rw [← List.reverse_concat, List.reverse_reverse]

end Dropped

/-- Blanks at the ends of a line belong to no word. -/
theorem tokens_trim (hblank : ∀ c, isBlank c = true → separates c = true) (text : List Char) :
    tokens separates (trim text) = tokens separates text := by
  rw [trim, trimEnd, tokens_dropWhile_reverse hblank, trimStart, tokens_dropWhile hblank]

end Tokens

end ChartBoard.Text
