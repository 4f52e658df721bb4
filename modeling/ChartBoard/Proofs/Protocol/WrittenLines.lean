import ChartBoard.Proofs.Calendar.TimestampText
import ChartBoard.Proofs.Number.ReadBack
import ChartBoard.Proofs.Protocol.LineForms
import Mathlib.Data.Bool.AllAny

/-!
Lines that are put together from numbers, read again. A line of values has no character in
common with a keyword beyond those of the words for what is no finite number, so nothing in
it makes a comment or a command of it. The separators in it decide its form, and its pieces
are read one by one; a piece that is no finite number refuses the whole line.
-/

namespace ChartBoard

open Text

namespace Command

section Pieces

theorem readIndex_toDigits {plot : Nat} (h : plot < word64) :
    readIndex (toDigits plot) = .ok plot := by
  rw [readIndex, readNat?_toDigits h]

theorem readNumber_text {x : Binary64} (h : x.isFinite = true) :
    readNumber x.text.toList = .ok x := by
  have hstarts : startsNumber x.text.toList = true := by
    cases x with
    | finite negative magnitude =>
        obtain ⟨c, text, htext, hdigit, -⟩ := Binary64.exists_text negative magnitude
        rw [htext]
        cases negative with
        | false => simp [NumberLayout.signed, startsNumber, hdigit]
        | true => rfl
    | infinite | notANumber => cases h
  rw [readNumber, Binary64.read?_text h]
  dsimp only
  rw [hstarts, h]
  rfl

/-- The words for infinity and for no number are refused. -/
theorem readNumber_of_not_finite {x : Binary64} (h : x.isFinite = false) :
    ∃ fault, readNumber x.text.toList = .error fault := by
  cases x with
  | finite => cases h
  | infinite negative => cases negative <;> exact ⟨_, rfl⟩
  | notANumber => exact ⟨_, rfl⟩

end Pieces

/-- The characters of lines of values besides the digits. -/
def dataCharacters : List Char := ':' :: ';' :: ',' :: Binary64.otherCharacters

section DataLine

variable {line : List Char} (hline : DigitsAnd dataCharacters line)

include hline

theorem free_blank : Free isBlank line := hline.free not_blank_of_isDigit (by decide)

/-- A line of values is none of the commands and no comment. -/
theorem readTrimmed_data (hne : line ≠ []) :
    readTrimmed line = (do return .data (← readData line)) := by
  have htold : ∀ c ∈ formCharacters, c.isDigit = false ∧ c ∉ dataCharacters :=
    List.all_iff_forall_prop.mp (by decide)
  exact readTrimmed_isData (isData_of_not_mem hne fun c hc =>
    hline.not_mem (htold c hc).1 (htold c hc).2)

/-- A line of values that can be read is read as these values. -/
theorem read_data (hne : line ≠ []) {data : DataLine} (hdata : readData line = .ok data) :
    read (String.ofList line) = .ok (.data data) := by
  unfold read
  rw [String.toList_ofList, trim_free (free_blank hline)]
  dsimp only
  rw [readTrimmed_data hline hne, hdata]
  rfl

/-- One that cannot be read is refused, all of it. -/
theorem read_data_error (hne : line ≠ []) (hdata : ∃ fault, readData line = .error fault) :
    ∃ refusal, read (String.ofList line) = .error refusal := by
  obtain ⟨fault, hfault⟩ := hdata
  unfold read
  rw [String.toList_ofList, trim_free (free_blank hline)]
  dsimp only
  rw [readTrimmed_data hline hne, hfault]
  exact ⟨_, rfl⟩

end DataLine

section Characters

theorem digitsAnd_index (plot : Nat) : DigitsAnd dataCharacters (toDigits plot) :=
  (allDigits_toDigits plot).digitsAnd dataCharacters

theorem digitsAnd_number (x : Binary64) : DigitsAnd dataCharacters x.text.toList :=
  x.digitsAnd_text.mono (by decide)

theorem digitsAnd_timestamp (t : Timestamp) : DigitsAnd dataCharacters t.text.toList :=
  t.digitsAnd_text.mono (by decide)

theorem separatesValues_of_isDigit (c : Char) (h : c.isDigit = true) :
    separatesValues c = false := by
  rw [separatesValues, beq_of_isDigit (by decide) c h, not_blank_of_isDigit c h]
  rfl

theorem free_blank_index (plot : Nat) : Free isBlank (toDigits plot) :=
  (allDigits_toDigits plot).free not_blank_of_isDigit

theorem free_colon_index (plot : Nat) : Free (· == ':') (toDigits plot) :=
  (allDigits_toDigits plot).free (beq_of_isDigit (by decide))

theorem free_colon_number (x : Binary64) : Free (· == ':') x.text.toList :=
  x.digitsAnd_text.free (beq_of_isDigit (by decide)) (by decide)

theorem free_colon_timestamp (t : Timestamp) : Free (· == ':') t.text.toList :=
  t.digitsAnd_text.free (beq_of_isDigit (by decide)) (by decide)

end Characters

/-- Three pieces with colons between them. -/
def triple (first second third : List Char) : List Char := [':'].intercalate [first, second, third]

section Triple

variable {first second third : List Char}

theorem digitsAnd_triple (hfirst : DigitsAnd dataCharacters first)
    (hsecond : DigitsAnd dataCharacters second) (hthird : DigitsAnd dataCharacters third) :
    DigitsAnd dataCharacters (triple first second third) := by
  refine DigitsAnd.intercalate (by decide) fun piece hpiece => ?_
  simp only [List.mem_cons, List.not_mem_nil, or_false] at hpiece
  rcases hpiece with rfl | rfl | rfl <;> assumption

theorem split_triple (hfirst : Free (· == ':') first) (hsecond : Free (· == ':') second)
    (hthird : Free (· == ':') third) :
    split (· == ':') (triple first second third) = [first, second, third] := by
  refine split_intercalate (by decide) (List.cons_ne_nil _ _) fun piece hpiece => ?_
  simp only [List.mem_cons, List.not_mem_nil, or_false] at hpiece
  rcases hpiece with rfl | rfl | rfl <;> assumption

theorem colon_mem_triple : ':' ∈ triple first second third := by
  simp [triple, List.intercalate_cons_cons]

theorem triple_ne_nil : triple first second third ≠ [] := List.ne_nil_of_mem colon_mem_triple

end Triple

section Sequential

/-- A line with one value for each plot. -/
def sequentialLine (values : List Binary64) : List Char :=
  [','].intercalate (values.map fun x => x.text.toList)

variable {values : List Binary64}

theorem digitsAnd_sequentialLine (values : List Binary64) :
    DigitsAnd dataCharacters (sequentialLine values) := by
  refine DigitsAnd.intercalate (by decide) fun piece hpiece => ?_
  obtain ⟨x, -, rfl⟩ := List.mem_map.mp hpiece
  exact digitsAnd_number x

theorem sequentialLine_ne_nil (hne : values ≠ []) : sequentialLine values ≠ [] := by
  obtain ⟨x, later, rfl⟩ := List.exists_cons_of_ne_nil hne
  cases later with
  | nil =>
      rw [sequentialLine, List.map_singleton, List.intercalate_singleton]
      exact x.text_ne_nil
  | cons second later =>
      rw [sequentialLine, List.map_cons, List.map_cons, List.intercalate_cons_cons]
      simp [x.text_ne_nil]

theorem readData_sequentialLine (hne : values ≠ []) :
    readData (sequentialLine values) =
      (do return .sequential (← (values.map fun x => x.text.toList).mapM readNumber)) := by
  have hcharacters : DigitsAnd (',' :: Binary64.otherCharacters) (sequentialLine values) := by
    refine DigitsAnd.intercalate List.mem_cons_self fun piece hpiece => ?_
    obtain ⟨x, -, rfl⟩ := List.mem_map.mp hpiece
    exact x.digitsAnd_text.mono (List.subset_cons_self _ _)
  have hcolon : (sequentialLine values).contains ':' = false := by
    rw [← Bool.not_eq_true, List.contains_iff_mem]
    exact hcharacters.not_mem (by decide) (by decide)
  have htokens : tokens separatesValues (sequentialLine values) =
      values.map fun x => x.text.toList := by
    refine tokens_of_split
      (split_intercalate (by decide) (by simpa using hne) fun piece hpiece => ?_) ?_
    · obtain ⟨x, -, rfl⟩ := List.mem_map.mp hpiece
      exact x.digitsAnd_text.free separatesValues_of_isDigit (by decide)
    · intro hnil
      obtain ⟨x, -, hx⟩ := List.mem_map.mp hnil
      exact x.text_ne_nil hx
  unfold readData
  rw [hcolon, htokens]
  rfl

/-- Finite values are read in their order. -/
theorem read_sequentialLine (hne : values ≠ []) (hfinite : ∀ x ∈ values, x.isFinite = true) :
    read (String.ofList (sequentialLine values)) = .ok (.data (.sequential values)) := by
  refine read_data (digitsAnd_sequentialLine values) (sequentialLine_ne_nil hne) ?_
  rw [readData_sequentialLine hne, mapM_map_ok fun x hx => readNumber_text (hfinite x hx)]
  rfl

theorem read_sequentialLine_error (h : ∃ x ∈ values, x.isFinite = false) :
    ∃ refusal, read (String.ofList (sequentialLine values)) = .error refusal := by
  obtain ⟨x, hx, hinfinite⟩ := h
  have hne : values ≠ [] := List.ne_nil_of_mem hx
  refine read_data_error (digitsAnd_sequentialLine values) (sequentialLine_ne_nil hne) ?_
  have hpiece : ∃ piece ∈ values.map fun x => x.text.toList,
      ∃ fault, readNumber piece = .error fault :=
    ⟨x.text.toList, List.mem_map.mpr ⟨x, hx, rfl⟩, readNumber_of_not_finite hinfinite⟩
  obtain ⟨fault, hfault⟩ := mapM_error hpiece
  rw [readData_sequentialLine hne, hfault]
  exact ⟨fault, rfl⟩

end Sequential

section Point

/-- A line with one point. -/
def pointLine (p : PlotPoint) : List Char :=
  triple (toDigits p.plot) p.x.text.toList p.y.text.toList

variable {p : PlotPoint}

theorem digitsAnd_pointLine (p : PlotPoint) : DigitsAnd dataCharacters (pointLine p) :=
  digitsAnd_triple (digitsAnd_index p.plot) (digitsAnd_number p.x) (digitsAnd_number p.y)

theorem readPoint_pointLine (p : PlotPoint) :
    readPoint (pointLine p) = (do
      let plot ← readIndex (toDigits p.plot)
      let x ← readNumber p.x.text.toList
      let y ← readNumber p.y.text.toList
      pure ⟨plot, x, y⟩) := by
  unfold readPoint pointLine
  rw [split_triple (free_colon_index _) (free_colon_number _) (free_colon_number _)]

theorem readData_pointLine (p : PlotPoint) :
    readData (pointLine p) = (do return .points (← [pointLine p].mapM readPoint)) := by
  have hcharacters : DigitsAnd (':' :: Binary64.otherCharacters) (pointLine p) := by
    refine DigitsAnd.intercalate List.mem_cons_self fun piece hpiece => ?_
    have hnumber (x : Binary64) : DigitsAnd (':' :: Binary64.otherCharacters) x.text.toList :=
      x.digitsAnd_text.mono (List.subset_cons_self _ _)
    simp only [List.mem_cons, List.not_mem_nil, or_false] at hpiece
    rcases hpiece with rfl | rfl | rfl
    · exact (allDigits_toDigits p.plot).digitsAnd _
    · exact hnumber p.x
    · exact hnumber p.y
  have hcolon : (pointLine p).contains ':' = true := List.contains_iff_mem.mpr colon_mem_triple
  have hsemicolon : (pointLine p).contains Timestamp.separator = false := by
    rw [← Bool.not_eq_true, List.contains_iff_mem]
    exact hcharacters.not_mem (by decide) (by decide)
  have htokens : tokens separatesValues (pointLine p) = [pointLine p] := by
    refine tokens_of_split (split_free (hcharacters.free separatesValues_of_isDigit (by decide))) ?_
    rw [List.mem_singleton]
    exact Ne.symm triple_ne_nil
  unfold readData
  rw [hcolon, hsemicolon, htokens]
  rfl

theorem read_pointLine (hplot : p.plot < word64) (hx : p.x.isFinite = true)
    (hy : p.y.isFinite = true) :
    read (String.ofList (pointLine p)) = .ok (.data (.points [p])) := by
  have hpoint : readPoint (pointLine p) = .ok p := by
    rw [readPoint_pointLine, readIndex_toDigits hplot, readNumber_text hx, readNumber_text hy]
    rfl
  refine read_data (digitsAnd_pointLine p) triple_ne_nil ?_
  rw [readData_pointLine, List.mapM_cons, hpoint]
  rfl

theorem read_pointLine_error (h : p.x.isFinite = false ∨ p.y.isFinite = false) :
    ∃ refusal, read (String.ofList (pointLine p)) = .error refusal := by
  have hpoint : ∃ fault, readPoint (pointLine p) = .error fault := by
    rw [readPoint_pointLine]
    cases hplot : readIndex (toDigits p.plot) with
    | error fault => exact ⟨fault, rfl⟩
    | ok plot =>
        cases hx : readNumber p.x.text.toList with
        | error fault => exact ⟨fault, rfl⟩
        | ok x =>
            rcases h with hinfinite | hinfinite
            · obtain ⟨fault, hfault⟩ := readNumber_of_not_finite hinfinite
              rw [hx] at hfault
              cases hfault
            · obtain ⟨fault, hfault⟩ := readNumber_of_not_finite hinfinite
              exact ⟨fault, by rw [hfault]; rfl⟩
  obtain ⟨fault, hfault⟩ := hpoint
  refine read_data_error (digitsAnd_pointLine p) triple_ne_nil ?_
  rw [readData_pointLine, List.mapM_cons, hfault]
  exact ⟨fault, rfl⟩

end Point

section Timed

/-- A line with a value at a timestamp. -/
def timedLine (plot : Nat) (time : Timestamp) (y : Binary64) : List Char :=
  triple (toDigits plot) time.text.toList y.text.toList

variable {plot : Nat} {time : Timestamp} {y : Binary64}

theorem digitsAnd_timedLine (plot : Nat) (time : Timestamp) (y : Binary64) :
    DigitsAnd dataCharacters (timedLine plot time y) :=
  digitsAnd_triple (digitsAnd_index plot) (digitsAnd_timestamp time) (digitsAnd_number y)

theorem readData_timedLine (plot : Nat) (time : Timestamp) (y : Binary64) :
    readData (timedLine plot time y) =
      (do
        let time ← (Timestamp.read time.text.toList).mapError (.notTimestamp time.text)
        let plot ← readIndex (toDigits plot)
        let y ← readNumber y.text.toList
        pure (.timed plot time y)) := by
  have hcolon : (timedLine plot time y).contains ':' = true :=
    List.contains_iff_mem.mpr colon_mem_triple
  have hsemicolon : (timedLine plot time y).contains Timestamp.separator = true := by
    rw [List.contains_iff_mem]
    simp [timedLine, triple, List.intercalate_cons_cons, time.separator_mem_text]
  have hplot : trim (toDigits plot) = toDigits plot :=
    trim_free (free_blank_index plot)
  have htime : trim time.text.toList = time.text.toList :=
    trim_free (time.digitsAnd_text.free not_blank_of_isDigit (by decide))
  have hy : trim y.text.toList = y.text.toList :=
    trim_free (y.digitsAnd_text.free not_blank_of_isDigit (by decide))
  have htimed : readData (timedLine plot time y) = readTimed (timedLine plot time y) := by
    unfold readData
    rw [hcolon, hsemicolon]
    rfl
  rw [htimed]
  unfold readTimed timedLine
  rw [split_triple (free_colon_index _) (free_colon_timestamp _) (free_colon_number _)]
  dsimp only
  rw [hplot, htime, hy, String.ofList_toList]
  cases Timestamp.read time.text.toList <;> rfl

theorem read_timedLine (hplot : plot < word64) (hyear : 0 ≤ time.year) (hy : y.isFinite = true) :
    read (String.ofList (timedLine plot time y)) = .ok (.data (.timed plot time.truncated y)) := by
  refine read_data (digitsAnd_timedLine plot time y) triple_ne_nil ?_
  rw [readData_timedLine, Timestamp.read_text hyear, readIndex_toDigits hplot, readNumber_text hy]
  rfl

theorem read_timedLine_error (h : y.isFinite = false) :
    ∃ refusal, read (String.ofList (timedLine plot time y)) = .error refusal := by
  obtain ⟨wrong, hwrong⟩ := readNumber_of_not_finite h
  refine read_data_error (digitsAnd_timedLine plot time y) triple_ne_nil ?_
  rw [readData_timedLine]
  cases Timestamp.read time.text.toList with
  | error fault => exact ⟨_, rfl⟩
  | ok time =>
      cases readIndex (toDigits plot) with
      | error fault => exact ⟨fault, rfl⟩
      | ok plot => exact ⟨wrong, by rw [hwrong]; rfl⟩

end Timed

section Keyword

/-- A keyword and a word behind it. -/
def keywordLine (keyword : String) (word : List Char) : List Char := keyword.toList ++ ' ' :: word

variable {keyword : String} (hkeyword : keyword ∈ operandKeywords)

include hkeyword

variable {word : List Char} (hword : Free isBlank word) (hne : word ≠ [])

include hword hne

theorem words_keywordLine : words (keywordLine keyword word) = [keyword.toList, word] := by
  obtain ⟨hfree, hempty⟩ := keyword_facts hkeyword
  refine tokens_of_split ?_ (by simp [Ne.symm hempty, Ne.symm hne])
  rw [keywordLine, split_append hfree (by decide), split_free hword]

theorem trim_keywordLine : trim (keywordLine keyword word) = keywordLine keyword word := by
  obtain ⟨hfree, hempty⟩ := keyword_facts hkeyword
  refine trim_eq_self (fun c hc => ?_) fun c hc => ?_
  · obtain ⟨first, rest, hfirst⟩ := List.exists_cons_of_ne_nil hempty
    rw [keywordLine, hfirst] at hc
    cases hc
    exact hfree c (hfirst ▸ List.mem_cons_self)
  · have hlast : (keywordLine keyword word).getLast? = word.getLast? := by
      rw [keywordLine, List.getLast?_append_of_ne_nil _ (List.cons_ne_nil _ _),
        List.getLast?_cons_of_ne_nil hne]
    rw [hlast] at hc
    exact hword c (List.mem_of_mem_getLast? hc)

theorem readTrimmed_keywordLine :
    readTrimmed (keywordLine keyword word) = readOperand keyword word :=
  readTrimmed_keyword hkeyword (words_keywordLine hkeyword hword hne)

/-- A line with a keyword and a word behind it is read by that keyword. -/
theorem read_keywordLine {command : Command} (hcommand : readOperand keyword word = .ok command) :
    read (String.ofList (keywordLine keyword word)) = .ok command := by
  unfold read
  rw [String.toList_ofList, trim_keywordLine hkeyword hword hne]
  dsimp only
  rw [readTrimmed_keywordLine hkeyword hword hne, hcommand]
  rfl

end Keyword

section Operands

variable {plot : Nat} (hplot : plot < word64)

include hplot

theorem read_clearLine :
    read (String.ofList (keywordLine Keyword.clear (toDigits plot))) = .ok (.clear plot) := by
  refine read_keywordLine (by decide) (free_blank_index plot) (toDigits_ne_nil plot) ?_
  rw [readOperand, readIndex_toDigits hplot]
  rfl

theorem read_replotLine :
    read (String.ofList (keywordLine Keyword.replot (toDigits plot))) = .ok (.replot plot) := by
  refine read_keywordLine (by decide) (free_blank_index plot) (toDigits_ne_nil plot) ?_
  rw [readOperand, readIndex_toDigits hplot]
  rfl

omit hplot in
theorem read_statusLine (enabled : Bool) :
    read (String.ofList (keywordLine Keyword.enableStatus (if enabled then ['1'] else ['0']))) =
      .ok (.enableStatus enabled) := by
  cases enabled <;> exact read_keywordLine (by decide) (by decide) (List.cons_ne_nil _ _) rfl

end Operands

section Assignment

/-- A line that assigns a value to a name. -/
def assignmentLine (name value : List Char) : List Char :=
  Keyword.set.toList ++ (name ++ '=' :: value)

variable {name value : List Char}

theorem trim_assignmentLine (name value : List Char) :
    trim (assignmentLine name value) = assignmentLine name (trimEnd value) := by
  have hstart : trimStart (assignmentLine name value) = assignmentLine name value :=
    trimStart_cons (by decide) _
  rw [trim, hstart, assignmentLine, ← List.append_assoc, trimEnd_append_cons _ (by decide),
    List.append_assoc]
  rfl

/-- A name is assigned everything behind the equals sign but the blanks at the end. -/
theorem read_assignmentLine (hname : Free (· == '=') name) (htrim : trim name = name)
    (hempty : name ≠ []) (value : List Char) :
    read (String.ofList (assignmentLine name value)) =
      .ok (.set (String.ofList name) (String.ofList (trimEnd value))) := by
  have hopening : Keyword.set.toList.isPrefixOf? (assignmentLine name (trimEnd value)) =
      some (name ++ '=' :: trimEnd value) := rfl
  have hcomment : isComment (assignmentLine name (trimEnd value)) = false := rfl
  have hset : readSet (name ++ '=' :: trimEnd value) =
      .ok (.set (String.ofList name) (String.ofList (trimEnd value))) := by
    rw [readSet, splitFirst?_append hname (by decide)]
    dsimp only
    rw [htrim, if_neg (by simpa using hempty)]
  unfold read
  rw [String.toList_ofList, trim_assignmentLine]
  dsimp only
  rw [readTrimmed, hcomment, hopening]
  dsimp only
  rw [if_neg Bool.false_ne_true, hset]
  rfl

end Assignment

end Command

end ChartBoard
