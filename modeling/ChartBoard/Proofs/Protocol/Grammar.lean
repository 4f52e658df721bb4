import ChartBoard.Proofs.Protocol.DataGrammar
import ChartBoard.Proofs.Protocol.LineForms

/-!
The grammar of the lines of a client, and that reading accepts exactly its lines. Each rule of
`Command.Grammar` is one form of a line with its command. The forms exclude each other, so a
line has at most one command; a line without one is refused as unreadable, with the line itself.
-/

namespace ChartBoard

open Text

namespace Command

/-- The words for yes and no, in any case of the letters from `A` to `Z`. -/
inductive FlagText (word : List Char) : Bool → Prop
  | yes (h : String.ofList (word.map Char.toLower) ∈ ["1", "true", "yes"]) : FlagText word true
  | no (h : String.ofList (word.map Char.toLower) ∈ ["0", "false", "no"]) : FlagText word false

/-- The lines without blanks at their ends, and what they ask for. -/
inductive Grammar : List Char → Command → Prop
  | empty : Grammar [] .comment
  | comment {c : Char} {text : List Char} (h : c = '#' ∨ c = '/') : Grammar (c :: text) .comment
  | set {name value : List Char} (hname : '=' ∉ name) (hsome : trim name ≠ []) :
      Grammar (Keyword.set.toList ++ (name ++ '=' :: value))
        (.set (String.ofList (trim name)) (String.ofList value))
  | init : Grammar Keyword.init.toList .init
  | addPlot : Grammar Keyword.addPlot.toList .addPlot
  | clear {line word : List Char} {plot : Nat}
      (hwords : runs isBlank line = [Keyword.clear.toList, word]) (hword : IndexText word plot) :
      Grammar line (.clear plot)
  | replot {line word : List Char} {plot : Nat}
      (hwords : runs isBlank line = [Keyword.replot.toList, word]) (hword : IndexText word plot) :
      Grammar line (.replot plot)
  | enableStatus {line word : List Char} {enabled : Bool}
      (hwords : runs isBlank line = [Keyword.enableStatus.toList, word])
      (hword : FlagText word enabled) : Grammar line (.enableStatus enabled)
  | data {line : List Char} {values : DataLine} (hline : IsData line)
      (hvalues : DataText line values) : Grammar line (.data values)

section Pieces

theorem readSet_eq_ok_iff {assignment : List Char} {command : Command} :
    readSet assignment = .ok command ↔ ∃ name value, assignment = name ++ '=' :: value ∧
      '=' ∉ name ∧ trim name ≠ [] ∧
      command = .set (String.ofList (trim name)) (String.ofList value) := by
  unfold readSet
  constructor
  · intro h
    split at h
    · cases h
    · rename_i name value hsplit
      split at h
      · cases h
      · rename_i hsome
        cases h
        obtain ⟨c, hc, rfl, hname⟩ := splitFirst?_eq_some hsplit
        rw [beq_iff_eq] at hc
        subst hc
        refine ⟨name, value, rfl, fun hmem => ?_, by simpa using hsome, rfl⟩
        simpa using hname '=' hmem
  · rintro ⟨name, value, rfl, hname, hsome, rfl⟩
    have hfree : Free (· == '=') name := by
      intro c hc
      rw [beq_eq_false_iff_ne]
      rintro rfl
      exact hname hc
    rw [splitFirst?_append hfree (by decide)]
    dsimp only
    rw [if_neg (by simpa using hsome)]

theorem operand_eq_ok_iff {keyword : String} {later : List (List Char)} {word : List Char} :
    operand keyword later = .ok word ↔ later = [word] := by
  unfold operand
  split <;> simp_all

theorem readFlag_eq_ok_iff {word : List Char} {enabled : Bool} :
    readFlag word = .ok enabled ↔ FlagText word enabled := by
  unfold readFlag
  dsimp only
  constructor
  · intro h
    split at h
    · rename_i hyes
      cases h
      exact .yes (by simpa [or_assoc] using hyes)
    · split at h
      · rename_i hno
        cases h
        exact .no (by simpa [or_assoc] using hno)
      · cases h
  · intro h
    cases h with
    | yes hyes =>
        rw [if_pos (by simpa [or_assoc] using hyes)]
    | no hno =>
        generalize String.ofList (word.map Char.toLower) = lower at hno ⊢
        simp only [List.mem_cons, List.not_mem_nil, or_false] at hno
        rcases hno with rfl | rfl | rfl <;> rfl

end Pieces

/-- A keyword and a word behind it are a line of the grammar, if the word is what is asked for. -/
theorem grammar_of_operand {keyword : String} (hkeyword : keyword ∈ operandKeywords)
    {line word : List Char} (hwords : runs isBlank line = [keyword.toList, word])
    {command : Command} (hcommand : readOperand keyword word = .ok command) :
    Grammar line command := by
  simp only [operandKeywords, List.mem_cons, List.not_mem_nil, or_false] at hkeyword
  rcases hkeyword with rfl | rfl | rfl
  · obtain ⟨plot, hplot, hmade⟩ := bind_eq_ok_iff.mp hcommand
    cases hmade
    exact .clear hwords (readIndex_eq_ok_iff.mp hplot)
  · obtain ⟨plot, hplot, hmade⟩ := bind_eq_ok_iff.mp hcommand
    cases hmade
    exact .replot hwords (readIndex_eq_ok_iff.mp hplot)
  · obtain ⟨enabled, hflag, hmade⟩ := bind_eq_ok_iff.mp hcommand
    cases hmade
    exact .enableStatus hwords (readFlag_eq_ok_iff.mp hflag)

theorem readTrimmed_operand {keyword : String} (hkeyword : keyword ∈ operandKeywords)
    {line word : List Char} (hwords : runs isBlank line = [keyword.toList, word])
    {command : Command} (hcommand : readOperand keyword word = .ok command) :
    readTrimmed line = .ok command := by
  rw [readTrimmed_keyword hkeyword ((tokens_eq line).trans hwords)]
  exact hcommand

theorem readTrimmed_eq_ok_iff {line : List Char} {command : Command} :
    readTrimmed line = .ok command ↔ Grammar line command := by
  constructor
  · intro h
    obtain hcomment | ⟨assignment, rfl⟩ | rfl | rfl | ⟨keyword, hkeyword, later, hwords⟩ | hdata :=
      form_cases line
    · rw [readTrimmed_comment hcomment] at h
      cases h
      obtain rfl | ⟨c, hc, hmark⟩ := isComment_iff.mp hcomment
      · exact .empty
      · obtain ⟨text, rfl⟩ := List.head?_eq_some_iff.mp hc
        exact .comment hmark
    · rw [readTrimmed_set, readSet_eq_ok_iff] at h
      obtain ⟨name, value, rfl, hname, hsome, rfl⟩ := h
      exact .set hname hsome
    · cases h
      exact .init
    · cases h
      exact .addPlot
    · rw [readTrimmed_keyword hkeyword hwords, bind_eq_ok_iff] at h
      obtain ⟨word, hword, hcommand⟩ := h
      rw [operand_eq_ok_iff] at hword
      subst hword
      exact grammar_of_operand hkeyword ((tokens_eq line).symm.trans hwords) hcommand
    · rw [readTrimmed_isData hdata, bind_eq_ok_iff] at h
      obtain ⟨values, hvalues, hmade⟩ := h
      cases hmade
      exact .data hdata (readData_eq_ok_iff.mp hvalues)
  · intro h
    cases h with
    | empty => exact readTrimmed_comment rfl
    | comment hmark => exact readTrimmed_comment (isComment_iff.mpr (.inr ⟨_, rfl, hmark⟩))
    | set hname hsome =>
        rw [readTrimmed_set, readSet_eq_ok_iff]
        exact ⟨_, _, rfl, hname, hsome, rfl⟩
    | init => exact readTrimmed_init
    | addPlot => exact readTrimmed_addPlot
    | clear hwords hword =>
        refine readTrimmed_operand (by decide) hwords (bind_eq_ok_iff.mpr ⟨_, ?_, rfl⟩)
        exact readIndex_eq_ok_iff.mpr hword
    | replot hwords hword =>
        refine readTrimmed_operand (by decide) hwords (bind_eq_ok_iff.mpr ⟨_, ?_, rfl⟩)
        exact readIndex_eq_ok_iff.mpr hword
    | enableStatus hwords hword =>
        refine readTrimmed_operand (by decide) hwords (bind_eq_ok_iff.mpr ⟨_, ?_, rfl⟩)
        exact readFlag_eq_ok_iff.mpr hword
    | data hline hvalues =>
        rw [readTrimmed_isData hline, bind_eq_ok_iff]
        exact ⟨_, readData_eq_ok_iff.mpr hvalues, rfl⟩

theorem read_eq_ok_iff {raw : String} {command : Command} :
    read raw = .ok command ↔ Grammar (trim raw.toList) command := by
  rw [← readTrimmed_eq_ok_iff]
  unfold read
  dsimp only
  cases readTrimmed (trim raw.toList) with
  | ok found => simp [Except.mapError]
  | error fault => simp [Except.mapError]

/-- What a line of values carries is what the grammar of values gives for it. -/
theorem dataText_of_read {raw : String} {values : DataLine} (h : read raw = .ok (.data values)) :
    DataText (trim raw.toList) values := by
  have hline := read_eq_ok_iff.mp h
  generalize trim raw.toList = line at hline ⊢
  cases hline with
  | data _ hvalues => exact hvalues

/-- A line is read as a command exactly if the grammar gives that command for the line without
the blanks at its ends. Every other line is refused with that text. -/
theorem read_accepts_grammar (raw : String) :
    (∀ command, read raw = .ok command ↔ Grammar (trim raw.toList) command) ∧
      ((∃ fault, read raw = .error (.unreadable (String.ofList (trim raw.toList)) fault)) ↔
        ∀ command, ¬Grammar (trim raw.toList) command) := by
  refine ⟨fun command => read_eq_ok_iff, ?_⟩
  simp only [← readTrimmed_eq_ok_iff]
  unfold read
  dsimp only
  cases readTrimmed (trim raw.toList) with
  | ok command => simp [Except.mapError]
  | error fault => simp [Except.mapError]

end Command

end ChartBoard
