import ChartBoard.Protocol.Command
import ChartBoard.Proofs.Text.OneLine
import ChartBoard.Proofs.Text.Tokens

/-!
Which form a line has. The forms are told apart in a fixed order: a comment by its first
character, an assignment by its opening, `init` and `add_plot` by the whole line, the other
keywords by the first word; everything else is a line of values. Every line has one of these
forms (`form_cases`), and one lemma for each says what is made of a line of that form.
-/

namespace ChartBoard

open Text

namespace Command

/-- The keywords that a word follows. -/
def operandKeywords : List String := [Keyword.clear, Keyword.replot, Keyword.enableStatus]

/-- What a keyword makes of the word behind it. -/
def readOperand (keyword : String) (word : List Char) : Except LineFault Command :=
  if keyword = Keyword.clear then (do return .clear (← readIndex word))
  else if keyword = Keyword.replot then (do return .replot (← readIndex word))
  else (do return .enableStatus (← readFlag word))

theorem keyword_facts {keyword : String} (hkeyword : keyword ∈ operandKeywords) :
    Free isBlank keyword.toList ∧ keyword.toList ≠ [] := by
  simp only [operandKeywords, List.mem_cons, List.not_mem_nil, or_false] at hkeyword
  rcases hkeyword with rfl | rfl | rfl <;> exact ⟨by decide, by decide⟩

/-- The characters with which comments, assignments, `init` and `add_plot` begin. -/
def otherOpenings : List Char := ['#', '/', 's', 'i', 'a']

theorem otherOpenings_facts : ∀ c ∈ otherOpenings, isBlank c = false ∧
    ∀ keyword ∈ operandKeywords, keyword.toList.head? ≠ some c := by
  intro c hc
  simp only [otherOpenings, List.mem_cons, List.not_mem_nil, or_false] at hc
  rcases hc with rfl | rfl | rfl | rfl | rfl <;> exact ⟨by decide, by decide⟩

/-- A line of values is what no other form takes. -/
structure IsData (line : List Char) : Prop where
  opening : ∃ c ∈ line.head?, c ≠ '#' ∧ c ≠ '/'
  notSet : ¬Keyword.set.toList <+: line
  notInit : line ≠ Keyword.init.toList
  notAddPlot : line ≠ Keyword.addPlot.toList
  notKeyword : ∀ keyword ∈ operandKeywords, (runs isBlank line).head? ≠ some keyword.toList

variable {line : List Char}

theorem isComment_iff :
    isComment line = true ↔ line = [] ∨ ∃ c ∈ line.head?, c = '#' ∨ c = '/' := by
  cases line <;> simp [isComment]

theorem isComment_eq_false_iff :
    isComment line = false ↔ ∃ c ∈ line.head?, c ≠ '#' ∧ c ≠ '/' := by
  cases line <;> simp [isComment]

theorem readTrimmed_comment (h : isComment line = true) : readTrimmed line = .ok .comment := by
  rw [readTrimmed, if_pos h]

theorem readTrimmed_set (assignment : List Char) :
    readTrimmed (Keyword.set.toList ++ assignment) = readSet assignment := rfl

theorem readTrimmed_init : readTrimmed Keyword.init.toList = .ok .init := rfl

theorem readTrimmed_addPlot : readTrimmed Keyword.addPlot.toList = .ok .addPlot := rfl

theorem isPrefixOf?_eq_none {opening : List Char} (h : ¬opening <+: line) :
    opening.isPrefixOf? line = none := by
  cases hrest : opening.isPrefixOf? line with
  | none => rfl
  | some rest => exact absurd ⟨rest, List.append_eq_of_isPrefixOf?_eq_some hrest⟩ h

/-- What is neither a comment nor an assignment, and not one of the two keywords that stand
alone, is told by its first word. -/
theorem readTrimmed_words (hcomment : isComment line = false) (hset : ¬Keyword.set.toList <+: line)
    (hinit : line ≠ Keyword.init.toList) (haddPlot : line ≠ Keyword.addPlot.toList) :
    readTrimmed line =
      let keyword := (words line).headD []
      let operands := (words line).drop 1
      if keyword = Keyword.clear.toList then
        operand Keyword.clear operands >>= readOperand Keyword.clear
      else if keyword = Keyword.replot.toList then
        operand Keyword.replot operands >>= readOperand Keyword.replot
      else if keyword = Keyword.enableStatus.toList then
        operand Keyword.enableStatus operands >>= readOperand Keyword.enableStatus
      else do
        return .data (← readData line) := by
  rw [readTrimmed, hcomment, isPrefixOf?_eq_none hset]
  dsimp only
  rw [if_neg Bool.false_ne_true, if_neg hinit, if_neg haddPlot]
  rfl

section Keywords

variable {keyword : String} {later : List (List Char)} (hkeyword : keyword ∈ operandKeywords)
  (hwords : words line = keyword.toList :: later)

include hkeyword hwords

/-- A line whose first word is one of these keywords begins with no other form. -/
theorem head?_ne_of_keyword {c : Char} (hc : c ∈ otherOpenings) : line.head? ≠ some c := by
  intro hhead
  obtain ⟨rest, rfl⟩ := List.head?_eq_some_iff.mp hhead
  obtain ⟨hblank, hkeywords⟩ := otherOpenings_facts c hc
  exact hkeywords keyword hkeyword (head?_token hblank hwords)

theorem readTrimmed_keyword :
    readTrimmed line = operand keyword later >>= readOperand keyword := by
  have hhead {c : Char} (hc : c ∈ otherOpenings) := head?_ne_of_keyword hkeyword hwords hc
  have hcomment : isComment line = false := by
    rw [← Bool.not_eq_true, isComment_iff]
    rintro (rfl | ⟨c, hc, rfl | rfl⟩)
    · cases hwords
    · exact hhead (by decide) hc
    · exact hhead (by decide) hc
  have hset : ¬Keyword.set.toList <+: line := by
    rintro ⟨rest, rfl⟩
    exact hhead (by decide) rfl
  have hinit : line ≠ Keyword.init.toList := by
    rintro rfl
    exact hhead (by decide) rfl
  have haddPlot : line ≠ Keyword.addPlot.toList := by
    rintro rfl
    exact hhead (by decide) rfl
  rw [readTrimmed_words hcomment hset hinit haddPlot, hwords]
  simp only [operandKeywords, List.mem_cons, List.not_mem_nil, or_false] at hkeyword
  rcases hkeyword with rfl | rfl | rfl <;> rfl

end Keywords

theorem readTrimmed_isData (h : IsData line) :
    readTrimmed line = (do return .data (← readData line)) := by
  have hnone {keyword : String} (hkeyword : keyword ∈ operandKeywords) :
      (words line).headD [] ≠ keyword.toList := by
    have hhead := h.notKeyword keyword hkeyword
    rw [← tokens_eq] at hhead
    unfold words
    cases hwords : tokens isBlank line with
    | nil => exact Ne.symm (keyword_facts hkeyword).2
    | cons word later =>
        rw [hwords] at hhead
        exact fun heq => hhead (congrArg some heq)
  rw [readTrimmed_words (isComment_eq_false_iff.mpr h.opening) h.notSet h.notInit h.notAddPlot]
  dsimp only
  rw [if_neg (hnone (by decide)), if_neg (hnone (by decide)), if_neg (hnone (by decide))]

/-- One character of every form of line but that of the values. -/
def formCharacters : List Char := ['#', '/', 's', 't', 'd', 'c', 'r', 'b']

/-- A line without any of these characters is a line of values. -/
theorem isData_of_not_mem (hne : line ≠ []) (h : ∀ c ∈ formCharacters, c ∉ line) : IsData line := by
  have hnot (c : Char) (hc : c ∈ formCharacters) {keyword : List Char} (hmem : c ∈ keyword) :
      ¬keyword ⊆ line := fun hsub => h c hc (hsub hmem)
  refine ⟨?_, ?_, ?_, ?_, ?_⟩
  · obtain ⟨c, rest, rfl⟩ := List.exists_cons_of_ne_nil hne
    refine ⟨c, rfl, ?_, ?_⟩ <;> rintro rfl
    · exact h _ (by decide) List.mem_cons_self
    · exact h _ (by decide) List.mem_cons_self
  · exact fun hset => hnot 's' (by decide) (by decide) hset.subset
  · rintro rfl
    exact hnot 't' (by decide) (by decide) (List.Subset.refl _)
  · rintro rfl
    exact hnot 'd' (by decide) (by decide) (List.Subset.refl _)
  · intro keyword hkeyword hhead
    rw [← tokens_eq] at hhead
    have hsub := tokens_subset isBlank (List.mem_of_mem_head? hhead)
    simp only [operandKeywords, List.mem_cons, List.not_mem_nil, or_false] at hkeyword
    rcases hkeyword with rfl | rfl | rfl
    · exact hnot 'c' (by decide) (by decide) hsub
    · exact hnot 'r' (by decide) (by decide) hsub
    · exact hnot 'b' (by decide) (by decide) hsub

/-- Every line has a form. -/
theorem form_cases (line : List Char) :
    isComment line = true ∨ (∃ assignment, line = Keyword.set.toList ++ assignment) ∨
      line = Keyword.init.toList ∨ line = Keyword.addPlot.toList ∨
      (∃ keyword ∈ operandKeywords, ∃ later, words line = keyword.toList :: later) ∨
      IsData line := by
  by_cases hcomment : isComment line = true
  · exact .inl hcomment
  by_cases hset : Keyword.set.toList <+: line
  · obtain ⟨assignment, rfl⟩ := hset
    exact .inr (.inl ⟨assignment, rfl⟩)
  by_cases hinit : line = Keyword.init.toList
  · exact .inr (.inr (.inl hinit))
  by_cases haddPlot : line = Keyword.addPlot.toList
  · exact .inr (.inr (.inr (.inl haddPlot)))
  by_cases hkeyword : ∃ keyword ∈ operandKeywords, (runs isBlank line).head? = some keyword.toList
  · obtain ⟨keyword, hmem, hhead⟩ := hkeyword
    obtain ⟨later, hwords⟩ := List.head?_eq_some_iff.mp hhead
    exact .inr (.inr (.inr (.inr (.inl ⟨keyword, hmem, later, by rw [words, tokens_eq, hwords]⟩))))
  · refine .inr (.inr (.inr (.inr (.inr ⟨?_, hset, hinit, haddPlot, ?_⟩))))
    · exact isComment_eq_false_iff.mp (Bool.eq_false_iff.mpr hcomment)
    · intro keyword hmem hhead
      exact hkeyword ⟨keyword, hmem, hhead⟩

end Command

end ChartBoard
