import ChartBoard.Proofs.Settings.SavedLines

/-!
Saved states read back. The lines of a state give its keys the numbers that it has, so a state is
read back as it was, but for a port zero, which is no port (`SavedState.read_text`). Nothing that
has been read has a port zero, and so it survives however often it is saved and read again.
-/

namespace ChartBoard.SavedState

open Text

/-- The keys that a state sets, with their texts. -/
def entries (state : SavedState) : List (Key × String) :=
  (state.basePort.elim [] fun port => [(.basePort, toString port.toNat)]) ++
    state.window.elim [] fun window =>
      [(.x, toString window.x.toInt), (.y, toString window.y.toInt),
        (.width, toString window.width.toNat), (.height, toString window.height.toNat)]

def putEntry (values : Values) (entry : Key × String) : Values :=
  values.put entry.1 entry.2.toList

/-- The line, without what ends it, that sets a key to a text. -/
def entryLine (entry : Key × String) : List Char :=
  entry.1.name.toList ++ '=' :: entry.2.toList

theorem toList_text (state : SavedState) : state.text.toList =
    "# netplot saved state".toList ++ '\n' ::
      (state.entries.map fun entry => entryLine entry ++ ['\n']).flatten := by
  have hline (key : Key) (value : String) :
      (lineOf key value).toList = entryLine (key, value) ++ ['\n'] := by
    simp [lineOf, entryLine]
  have hcomment : "# netplot saved state\n".toList = "# netplot saved state".toList ++ ['\n'] := by
    decide
  unfold text entries
  cases state.basePort <;> cases state.window <;>
    simp [String.toList_append, hline, hcomment]

/-- Digits, with a minus sign perhaps. -/
theorem digitsAnd_entries {state : SavedState} :
    ∀ entry ∈ state.entries, DigitsAnd ['-'] entry.2.toList := by
  have hnat (n : Nat) : DigitsAnd ['-'] (toString n).toList := by
    rw [toList_toString]
    exact (allDigits_toDigits n).digitsAnd _
  unfold entries
  rw [List.forall_mem_append]
  constructor
  · cases state.basePort with
    | none => exact List.forall_mem_nil _
    | some port => exact List.forall_mem_singleton.mpr (hnat _)
  · cases state.window with
    | none => exact List.forall_mem_nil _
    | some window =>
        simp only [Option.elim_some, List.forall_mem_cons]
        exact ⟨digitsAnd_toString_int _, digitsAnd_toString_int _, hnat _, hnat _,
          List.forall_mem_nil _⟩

section Names

variable (key : Key)

theorem Key.name_ne_nil : key.name.toList ≠ [] := by
  cases key <;> decide

theorem Key.blank_free_name : Free isBlank key.name.toList := by
  cases key <;> decide

theorem Key.separator_free_name : '=' ∉ key.name.toList ∧ ':' ∉ key.name.toList := by
  cases key <;> decide

theorem Key.no_comment_name :
    key.name.toList.head? ≠ some '#' ∧ key.name.toList.head? ≠ some '!' := by
  cases key <;> decide

end Names

section Entries

variable {entry : Key × String} (h : DigitsAnd ['-'] entry.2.toList)

include h

theorem blank_free_value : Free isBlank entry.2.toList :=
  h.free not_blank_of_isDigit (by decide)

theorem blank_free_entryLine : Free isBlank (entryLine entry) := by
  intro c hc
  rcases List.mem_append.mp hc with hname | hrest
  · exact entry.1.blank_free_name c hname
  · rcases List.mem_cons.mp hrest with rfl | hvalue
    · decide
    · exact blank_free_value h c hvalue

theorem newline_free_entryLine : Free (· == '\n') (entryLine entry) := by
  refine fun c hc => beq_eq_false_iff_ne.mpr ?_
  rintro rfl
  exact absurd (blank_free_entryLine h _ hc) (by decide)

/-- The line of an entry gives its key its text. -/
theorem gives_entryLine : Gives (entryLine entry) entry.1 entry.2.toList := by
  have hline := trim_free (blank_free_entryLine h)
  have hhead : (entryLine entry).head? = entry.1.name.toList.head? :=
    List.head?_append_of_ne_nil _ entry.1.name_ne_nil
  rw [← trim_free (blank_free_value h)]
  refine .intro ?_ hline (.inl rfl) entry.1.separator_free_name (trim_free entry.1.blank_free_name)
  rw [hline, hhead]
  exact entry.1.no_comment_name

theorem readLine_entryLine (values : Values) :
    readLine values (entryLine entry) = putEntry values entry := by
  rw [readLine_eq, given?_eq_some_iff.mpr (gives_entryLine h)]
  rfl

end Entries

/-- The lines of entries put their values one after the other. -/
theorem foldl_readLine_entries {entries : List (Key × String)}
    (h : ∀ entry ∈ entries, DigitsAnd ['-'] entry.2.toList) (values : Values) :
    ((entries.map fun entry => entryLine entry ++ ['\n']).flatten.splitOn '\n').foldl
        readLine values =
      entries.foldl putEntry values := by
  induction entries generalizing values with
  | nil => rfl
  | cons entry entries ih =>
      obtain ⟨hentry, hrest⟩ := List.forall_mem_cons.mp h
      have hsplit :
          (((entry :: entries).map fun entry => entryLine entry ++ ['\n']).flatten).splitOn '\n' =
            entryLine entry ::
              ((entries.map fun entry => entryLine entry ++ ['\n']).flatten).splitOn '\n' := by
        rw [List.map_cons, List.flatten_cons, List.append_assoc, List.singleton_append,
          ← split_eq_splitOn, split_append (newline_free_entryLine hentry) (by decide),
          split_eq_splitOn]
      rw [hsplit, List.foldl_cons, readLine_entryLine hentry]
      exact ih hrest _

theorem valuesOf_text (state : SavedState) : valuesOf state.text.toList =
    state.entries.foldl putEntry {} := by
  have hcomment (values : Values) : readLine values "# netplot saved state".toList = values := by
    rw [readLine]
    rfl
  rw [valuesOf, toList_text, ← split_eq_splitOn, split_append (by decide) (by decide),
    split_eq_splitOn, List.foldl_cons, hcomment, foldl_readLine_entries digitsAnd_entries]

section Numbers

theorem readPort?_toString (port : UInt16) :
    readPort? (toString port.toNat).toList = if port = 0 then none else some port := by
  have hword : port.toNat < word16 := port.toNat_lt
  rw [readPort?, toList_toString, readNat?_toDigits hword]
  by_cases hzero : port = 0
  · rw [hzero]
    rfl
  · have hne : port.toNat ≠ 0 := fun h => hzero (UInt16.toNat_inj.mp h)
    simp [hzero, hne]

theorem readPosition?_toString (position : Int32) :
    readPosition? (toString position.toInt).toList = some position := by
  have hread : readInt? (1 <<< 31) (toString position.toInt).toList = some position.toInt :=
    (readInt?_eq_some_iff (by decide)).mpr
      ⟨intText_toString _, position.le_toInt, position.toInt_lt⟩
  rw [readPosition?, hread, Option.map_some, Int32.ofInt_toInt]

theorem readSize?_toString (size : UInt32) :
    readSize? (toString size.toNat).toList = some size := by
  have hword : size.toNat < word32 := size.toNat_lt
  rw [readSize?, toList_toString, readNat?_toDigits hword, Option.map_some, UInt32.ofNat_toNat]

end Numbers

/-- A state is read back from its lines as it was, but for a port zero. -/
theorem read_text (state : SavedState) : read state.text.toList =
    { state with basePort := state.basePort.filter fun port => port ≠ 0 } := by
  obtain ⟨port, window⟩ := state
  have hport : (port.elim [] fun port => [(Key.basePort, toString port.toNat)]).foldl putEntry {} =
      { basePort := port.filter fun port => port ≠ 0 } := by
    cases port with
    | none => rfl
    | some port =>
        simp only [Option.elim_some, List.foldl_cons, List.foldl_nil, putEntry, Values.put,
          readPort?_toString, Option.filter_some]
        by_cases hzero : port = 0 <;> simp [hzero]
  rw [read_eq, valuesOf_text, entries, List.foldl_append, hport]
  cases window with
  | none => rfl
  | some window =>
      simp only [Option.elim_some, List.foldl_cons, List.foldl_nil, putEntry, Values.put,
        readPosition?_toString, readSize?_toString]
      rfl

section Fields

/-- There is a window exactly if there are all of its values. -/
theorem window_ofValues_eq_some_iff {values : Values} {window : Window} :
    (ofValues values).window = some window ↔ values.x = some window.x ∧
      values.y = some window.y ∧ values.width = some window.width ∧
        values.height = some window.height := by
  obtain ⟨port, x, y, width, height⟩ := values
  constructor
  · intro h
    simp only [ofValues, bind_pure_comp, Option.bind_eq_bind, Option.bind_eq_some_iff,
      Option.map_eq_map, Option.map_eq_some_iff] at h
    obtain ⟨x, rfl, y, rfl, width, rfl, height, rfl, rfl⟩ := h
    exact ⟨rfl, rfl, rfl, rfl⟩
  · rintro ⟨rfl, rfl, rfl, rfl⟩
    rfl

variable {text : List Char}

theorem basePort_read_eq_some_iff {port : UInt16} :
    (read text).basePort = some port ↔ Sets text .basePort port.toNat := by
  rw [read_eq, ← get?_valuesOf_eq_some_iff, Values.get?]
  simp only [ofValues, Option.map_eq_some_iff, Int.natCast_inj, UInt16.toNat_inj, exists_eq_right]

theorem window_read_eq_some_iff {window : Window} : (read text).window = some window ↔
    Sets text .x window.x.toInt ∧ Sets text .y window.y.toInt ∧
      Sets text .width window.width.toNat ∧ Sets text .height window.height.toNat := by
  rw [read_eq, window_ofValues_eq_some_iff]
  simp only [← get?_valuesOf_eq_some_iff, Values.get?, Option.map_eq_some_iff, Int.natCast_inj,
    Int32.toInt_inj, UInt32.toNat_inj, exists_eq_right]

theorem exists_sets_iff {key : Key} :
    (∃ n, Sets text key n) ↔ ((valuesOf text).get? key).isSome = true := by
  simp only [← get?_valuesOf_eq_some_iff, Option.isSome_iff_exists]

theorem basePort_read_isSome_iff :
    (read text).basePort.isSome = true ↔ ∃ n, Sets text .basePort n := by
  rw [exists_sets_iff, read_eq, ofValues, Values.get?, Option.isSome_map]

theorem window_read_isSome_iff :
    (read text).window.isSome = true ↔ ∀ key ≠ Key.basePort, ∃ n, Sets text key n := by
  simp only [exists_sets_iff, read_eq, Option.isSome_iff_exists (x := (ofValues _).window),
    window_ofValues_eq_some_iff]
  constructor
  · rintro ⟨window, hx, hy, hwidth, hheight⟩ key hkey
    cases key <;> simp_all [Values.get?]
  · intro h
    have hx := h .x (by decide)
    have hy := h .y (by decide)
    have hwidth := h .width (by decide)
    have hheight := h .height (by decide)
    simp only [Values.get?, Option.isSome_map, Option.isSome_iff_exists] at hx hy hwidth hheight
    obtain ⟨x, hx⟩ := hx
    obtain ⟨y, hy⟩ := hy
    obtain ⟨width, hwidth⟩ := hwidth
    obtain ⟨height, hheight⟩ := hheight
    exact ⟨⟨x, y, width, height⟩, hx, hy, hwidth, hheight⟩

end Fields

theorem basePort_read_ne_zero (text : List Char) : (read text).basePort ≠ some 0 := by
  intro h
  obtain ⟨value, -, port, hport, -, hne, -⟩ := basePort_read_eq_some_iff.mp h
  exact hne (Int.natCast_inj.mp hport).symm

/-- Lines put together are read one after the other. -/
theorem read_join {lines : List (List Char)} (h : ∀ line ∈ lines, '\n' ∉ line) :
    read (['\n'].intercalate lines) = ofValues (lines.foldl readLine {}) := by
  by_cases hnone : lines = []
  · rw [hnone]
    rfl
  · have hfree : ∀ line ∈ lines, Free (· == '\n') line := fun line hline c hc =>
      beq_eq_false_iff_ne.mpr fun heq => h line hline (heq ▸ hc)
    rw [read, split_intercalate (by decide) hnone hfree]

/-- A text is read as what its last lines set, and a state that is saved is read again. The port and
the window are there exactly if the last lines that give their keys a text give literals, and lines
that give no key a text change nothing. But for a port zero a state is read back as it was, and what
has been read is read back however it was written. -/
theorem saved_state_survives :
    (∀ text : List Char,
      (∀ port, (read text).basePort = some port ↔ Sets text .basePort port.toNat) ∧
      ((read text).basePort.isSome = true ↔ ∃ n, Sets text .basePort n) ∧
      (∀ window, (read text).window = some window ↔
        Sets text .x window.x.toInt ∧ Sets text .y window.y.toInt ∧
          Sets text .width window.width.toNat ∧ Sets text .height window.height.toNat) ∧
      ((read text).window.isSome = true ↔ ∀ key ≠ Key.basePort, ∃ n, Sets text key n)) ∧
    (∀ before line after, (∀ other ∈ before ++ line :: after, '\n' ∉ other) →
      (∀ key value, ¬Gives line key value) →
        read (['\n'].intercalate (before ++ line :: after)) =
          read (['\n'].intercalate (before ++ after))) ∧
    (∀ state : SavedState,
      (state.basePort ≠ some 0 → read state.text.toList = state) ∧
      (state.basePort = some 0 → read state.text.toList = { state with basePort := none })) ∧
    ∀ text : List Char, read (read text).text.toList = read text := by
  have hsaved (state : SavedState) (h : state.basePort ≠ some 0) :
      read state.text.toList = state := by
    rw [read_text]
    obtain ⟨port, window⟩ := state
    cases port with
    | none => rfl
    | some port =>
        have hne : port ≠ 0 := fun hzero => h (congrArg some hzero)
        simp [hne]
  refine ⟨fun text => ?_, fun before line after hlines hnothing => ?_, fun state => ?_,
    fun text => ?_⟩
  · exact ⟨fun port => basePort_read_eq_some_iff, basePort_read_isSome_iff,
      fun window => window_read_eq_some_iff, window_read_isSome_iff⟩
  · have hfewer : ∀ other ∈ before ++ after, '\n' ∉ other := fun other hother =>
      hlines other (by
        rcases List.mem_append.mp hother with hmem | hmem
        · exact List.mem_append_left _ hmem
        · exact List.mem_append_right _ (List.mem_cons_of_mem line hmem))
    rw [read_join hlines, read_join hfewer, List.foldl_append, List.foldl_append, List.foldl_cons,
      readLine_of_gives_nothing hnothing]
  · refine ⟨hsaved state, fun hzero => ?_⟩
    rw [read_text, hzero]
    rfl
  · exact hsaved _ (basePort_read_ne_zero text)

/-- A later line counts, and lines may end with a carriage return. -/
theorem saved_state_survives_two_ports :
    Sets "server_port=1\r\nserver_port: 9700\r\ngui_x=?\r\n".toList .basePort 9700 ∧
      read ({ basePort := some 9700 } : SavedState).text.toList = { basePort := some 9700 } :=
  ⟨((saved_state_survives.1 _).1 9700).mp (by decide +kernel),
    (saved_state_survives.2.2.1 _).1 (by decide)⟩

end ChartBoard.SavedState
