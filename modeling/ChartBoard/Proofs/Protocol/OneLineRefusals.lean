import ChartBoard.Proofs.Text.OneLine
import ChartBoard.Protocol.Command

/-!
Refusals on one line. A refusal repeats parts of the line that it refuses; if the line is
a single one, so is the message. Where a refusal holds no text of the client at all, the
message is on one line in any case.
-/

namespace ChartBoard

open Text

theorem oneLine_string_append (text later : String) :
    OneLine (text ++ later).toList ↔ OneLine text.toList ∧ OneLine later.toList := by
  rw [String.toList_append, oneLine_append]

theorem oneLine_kind (kind : ChartKind) : OneLine kind.name.toList := by
  cases kind <;> exact oneLine_ofList (by decide)

theorem oneLine_action (action : Action) : OneLine action.description.toList := by
  cases action <;> exact oneLine_ofList (by decide)

theorem oneLine_form (form : DataForm) : OneLine form.description.toList := by
  cases form <;> exact oneLine_ofList (by decide)

theorem oneLine_valueForm (form : ValueForm) : OneLine form.description.toList := by
  cases form <;> exact oneLine_ofList (by decide)

theorem oneLine_quoted {word : String} (h : OneLine word.toList) :
    OneLine (LineFault.quoted word).toList := by
  simp only [LineFault.quoted, oneLine_string_append]
  exact ⟨⟨oneLine_ofList (by decide), h⟩, oneLine_ofList (by decide)⟩

/-- A word of the line in quotes, and what is said of it. -/
theorem oneLine_quoted_word {line word verdict : List Char} (h : OneLine line)
    (hword : word ⊆ line) (hverdict : OneLine verdict) :
    OneLine (LineFault.quoted (String.ofList word) ++ String.ofList verdict).toList := by
  rw [oneLine_string_append]
  refine ⟨oneLine_quoted ?_, oneLine_ofList hverdict⟩
  rw [String.toList_ofList]
  exact h.of_subset hword

namespace Timestamp

theorem readField_complains {text field : List Char} (h : OneLine text) (hfield : field ⊆ text) :
    ComplainsInLine TimestampFault.reason (readField field) := by
  unfold readField
  split
  · exact complainsInLine_ok _
  · refine complainsInLine_error ?_
    unfold TimestampFault.reason
    simp only [oneLine_string_append, String.toList_ofList]
    exact ⟨⟨oneLine_ofList (by decide), h.of_subset hfield⟩, oneLine_ofList (by decide)⟩

theorem oneLine_fieldCount (found : Nat) :
    OneLine (TimestampFault.fieldCount found).reason.toList := by
  unfold TimestampFault.reason
  rw [oneLine_string_append]
  exact ⟨oneLine_ofList (by decide), oneLine_toString found⟩

theorem ofNumbers_complains (numbers : List Nat) :
    ComplainsInLine TimestampFault.reason (ofNumbers numbers) := by
  unfold ofNumbers
  split
  · split
    · exact complainsInLine_error (oneLine_ofList (by decide))
    · split
      · exact complainsInLine_error (oneLine_ofList (by decide))
      · split
        · exact complainsInLine_ok _
        · exact complainsInLine_error (oneLine_ofList (by decide))
  · exact complainsInLine_error (oneLine_fieldCount _)

theorem read_complains {text : List Char} (h : OneLine text) :
    ComplainsInLine TimestampFault.reason (Timestamp.read text) := by
  unfold Timestamp.read
  dsimp only
  split
  · refine ComplainsInLine.bind (ComplainsInLine.mapM ?_) fun numbers _ =>
      ofNumbers_complains numbers
    intro field hfield
    obtain ⟨piece, hpiece, rfl⟩ := List.mem_map.mp hfield
    exact readField_complains h (List.Subset.trans (trim_subset piece) (split_subset _ hpiece))
  · exact complainsInLine_error (oneLine_fieldCount _)

end Timestamp

namespace Command

variable {line : List Char} (h : OneLine line)

include h

theorem readNumber_complains {word : List Char} (hword : word ⊆ line) :
    ComplainsInLine LineFault.reason (readNumber word) := by
  have hfault : OneLine (LineFault.notNumber (String.ofList word)).reason.toList :=
    oneLine_quoted_word h hword (by decide)
  unfold readNumber
  split
  · split
    · exact complainsInLine_ok _
    · exact complainsInLine_error hfault
  · exact complainsInLine_error hfault

theorem readIndex_complains {word : List Char} (hword : word ⊆ line) :
    ComplainsInLine LineFault.reason (readIndex word) := by
  unfold readIndex
  split
  · exact complainsInLine_ok _
  · exact complainsInLine_error (oneLine_quoted_word h hword (by decide))

theorem readFlag_complains {word : List Char} (hword : word ⊆ line) :
    ComplainsInLine LineFault.reason (readFlag word) := by
  unfold readFlag
  dsimp only
  split
  · exact complainsInLine_ok _
  · split
    · exact complainsInLine_ok _
    · exact complainsInLine_error (oneLine_quoted_word h hword (by decide))

theorem readPoint_complains {word : List Char} (hword : word ⊆ line) :
    ComplainsInLine LineFault.reason (readPoint word) := by
  unfold readPoint
  split
  · rename_i plot x y hsplit
    have hpart : ∀ part ∈ [plot, x, y], part ⊆ line := by
      intro part hpart
      rw [← hsplit] at hpart
      exact List.Subset.trans (split_subset _ hpart) hword
    refine (readIndex_complains h (hpart plot (by simp))).bind fun _ _ => ?_
    refine (readNumber_complains h (hpart x (by simp))).bind fun _ _ => ?_
    refine (readNumber_complains h (hpart y (by simp))).bind fun _ _ => ?_
    exact complainsInLine_ok _
  · exact complainsInLine_error (oneLine_quoted_word h hword (by decide))

theorem readTimed_complains : ComplainsInLine LineFault.reason (readTimed line) := by
  unfold readTimed
  split
  · rename_i plot timestamp y hsplit
    have hpart : ∀ part ∈ [plot, timestamp, y], trim part ⊆ line := by
      intro part hpart
      rw [← hsplit] at hpart
      exact List.Subset.trans (trim_subset part) (split_subset _ hpart)
    have htimestamp := h.of_subset (hpart timestamp (by simp))
    have hread := Timestamp.read_complains htimestamp
    split
    · rename_i fault hfault
      refine complainsInLine_error ?_
      unfold LineFault.reason TimestampFault.message
      simp only [oneLine_string_append, String.toList_ofList]
      exact ⟨⟨⟨oneLine_ofList (by decide), htimestamp⟩, oneLine_ofList (by decide)⟩,
        hread fault hfault⟩
    · refine (readIndex_complains h (hpart plot (by simp))).bind fun _ _ => ?_
      refine (readNumber_complains h (hpart y (by simp))).bind fun _ _ => ?_
      exact complainsInLine_ok _
  · exact complainsInLine_error (oneLine_ofList (by decide))

theorem readData_complains : ComplainsInLine LineFault.reason (readData line) := by
  unfold readData
  split
  · refine ComplainsInLine.bind (ComplainsInLine.mapM ?_) fun _ _ => complainsInLine_ok _
    exact fun word hword => readNumber_complains h (tokens_subset _ hword)
  · split
    · exact readTimed_complains h
    · refine ComplainsInLine.bind (ComplainsInLine.mapM ?_) fun _ _ => complainsInLine_ok _
      exact fun word hword => readPoint_complains h (tokens_subset _ hword)

omit h in
theorem readSet_complains (assignment : List Char) :
    ComplainsInLine LineFault.reason (readSet assignment) := by
  unfold readSet
  split
  · exact complainsInLine_error (oneLine_ofList (by decide))
  · split
    · exact complainsInLine_error (oneLine_ofList (by decide))
    · exact complainsInLine_ok _

omit h in
theorem operand_complains {keyword : String} (hkeyword : OneLine keyword.toList)
    (operands : List (List Char)) :
    ComplainsInLine LineFault.reason (operand keyword operands) := by
  unfold operand
  split
  · refine complainsInLine_error ?_
    simp only [LineFault.reason, oneLine_string_append]
    exact ⟨hkeyword, oneLine_ofList (by decide)⟩
  · exact complainsInLine_ok _
  · refine complainsInLine_error ?_
    simp only [LineFault.reason, oneLine_string_append]
    exact ⟨hkeyword, oneLine_ofList (by decide)⟩

omit h in
theorem mem_of_operand {keyword : String} {operands : List (List Char)} {word : List Char}
    (hword : operand keyword operands = .ok word) : word ∈ operands := by
  unfold operand at hword
  split at hword
  · cases hword
  · cases hword
    exact List.mem_singleton_self word
  · cases hword

theorem readTrimmed_complains : ComplainsInLine LineFault.reason (readTrimmed line) := by
  have hoperand {keyword : String} {word : List Char}
      (hword : operand keyword ((words line).drop 1) = .ok word) : word ⊆ line :=
    tokens_subset isBlank (List.mem_of_mem_drop (mem_of_operand hword))
  unfold readTrimmed
  dsimp only
  split
  · exact complainsInLine_ok _
  split
  · exact readSet_complains _
  split
  · exact complainsInLine_ok _
  split
  · exact complainsInLine_ok _
  split
  · refine (operand_complains (oneLine_ofList (by decide)) _).bind fun word hword => ?_
    exact (readIndex_complains h (hoperand hword)).bind fun _ _ => complainsInLine_ok _
  split
  · refine (operand_complains (oneLine_ofList (by decide)) _).bind fun word hword => ?_
    exact (readIndex_complains h (hoperand hword)).bind fun _ _ => complainsInLine_ok _
  split
  · refine (operand_complains (oneLine_ofList (by decide)) _).bind fun word hword => ?_
    exact (readFlag_complains h (hoperand hword)).bind fun _ _ => complainsInLine_ok _
  · exact (readData_complains h).bind fun _ _ => complainsInLine_ok _

omit h in
/-- The texts that a command carries are on one line. -/
def OnOneLine : Command → Prop
  | .set name value => OneLine name.toList ∧ OneLine value.toList
  | _ => True

theorem oneLine_readSet {assignment : List Char} (hassignment : assignment ⊆ line)
    (command : Command) (hread : readSet assignment = .ok command) : command.OnOneLine := by
  unfold readSet at hread
  split at hread
  · cases hread
  · rename_i name value hsplit
    obtain ⟨hname, hvalue⟩ := splitFirst?_subset hsplit
    split at hread
    · cases hread
    · cases hread
      simp only [OnOneLine, String.toList_ofList]
      have htrimmed := List.Subset.trans (trim_subset name) (List.Subset.trans hname hassignment)
      exact ⟨h.of_subset htrimmed, h.of_subset (List.Subset.trans hvalue hassignment)⟩

theorem oneLine_readTrimmed (command : Command) (hread : readTrimmed line = .ok command) :
    command.OnOneLine := by
  have htrivial {α β : Type} {outcome : Except LineFault α} {next : α → Except LineFault β}
      (make : β → Command) (hmake : ∀ y, (make y).OnOneLine) :
      ∀ command, (outcome >>= fun x => next x >>= fun y => pure (make y)) = .ok command →
        command.OnOneLine := by
    refine yields_bind fun x => yields_bind fun y command hcommand => ?_
    cases hcommand
    exact hmake y
  unfold readTrimmed at hread
  dsimp only at hread
  split at hread
  · cases hread
    trivial
  split at hread
  · rename_i assignment hopening
    exact oneLine_readSet h (isPrefixOf?_subset hopening) command hread
  split at hread
  · cases hread
    trivial
  split at hread
  · cases hread
    trivial
  split at hread
  · exact htrivial .clear (fun _ => trivial) command hread
  split at hread
  · exact htrivial .replot (fun _ => trivial) command hread
  split at hread
  · exact htrivial .enableStatus (fun _ => trivial) command hread
  · refine yields_bind (fun data command hcommand => ?_) command hread
    cases hcommand
    trivial

end Command

/-- A refusal without any text of the client. -/
def Refusal.Wordless : Refusal → Prop
  | .noKind _ | .notInitialized _ | .noSuchPlot _ _ _ | .tooManyPlots _ _ | .unsupported _ _
  | .gridTooLarge _ _ _ => True
  | _ => False

theorem Refusal.Wordless.oneLine {refusal : Refusal} (h : refusal.Wordless) :
    OneLine refusal.message.toList := by
  cases refusal with
  | noKind action =>
      unfold message
      simp only [oneLine_string_append]
      exact ⟨⟨oneLine_ofList (by decide), oneLine_action action⟩, oneLine_ofList (by decide)⟩
  | notInitialized action =>
      unfold message
      simp only [oneLine_string_append]
      exact ⟨⟨oneLine_ofList (by decide), oneLine_action action⟩, oneLine_ofList (by decide)⟩
  | noSuchPlot kind index count =>
      unfold message
      simp only [oneLine_string_append]
      exact ⟨⟨⟨⟨⟨oneLine_kind kind, oneLine_ofList (by decide)⟩, oneLine_toString index⟩,
        oneLine_ofList (by decide)⟩, oneLine_toString count⟩, oneLine_ofList (by decide)⟩
  | tooManyPlots kind most =>
      unfold message
      simp only [oneLine_string_append]
      exact ⟨⟨⟨⟨oneLine_ofList (by decide), oneLine_kind kind⟩, oneLine_ofList (by decide)⟩,
        oneLine_toString most⟩, oneLine_ofList (by decide)⟩
  | unsupported kind form =>
      unfold message
      simp only [oneLine_string_append]
      exact ⟨⟨⟨oneLine_form form, oneLine_ofList (by decide)⟩, oneLine_kind kind⟩,
        oneLine_ofList (by decide)⟩
  | gridTooLarge rows columns most =>
      unfold message
      simp only [oneLine_string_append]
      exact ⟨⟨⟨⟨⟨oneLine_ofList (by decide), oneLine_toString rows⟩, oneLine_ofList (by decide)⟩,
        oneLine_toString columns⟩, oneLine_ofList (by decide)⟩, oneLine_toString most⟩
  | unreadable | unknownAttribute | invalidValue | unknownKind => cases h

theorem Refusal.oneLine_unreadable {line : String} {fault : LineFault}
    (hline : OneLine line.toList) (hfault : OneLine fault.reason.toList) :
    OneLine (Refusal.unreadable line fault).message.toList := by
  unfold message
  simp only [oneLine_string_append]
  exact ⟨⟨⟨oneLine_ofList (by decide), hline⟩, oneLine_ofList (by decide)⟩, hfault⟩

/-- Reading a single line complains in a single line, and a command that is read carries no
other texts. -/
theorem Command.read_complains {line : String} (h : OneLine line.toList) :
    ComplainsInLine Refusal.message (Command.read line) ∧
      ∀ command, Command.read line = .ok command → command.OnOneLine := by
  have htrimmed : OneLine (trim line.toList) := h.of_subset (trim_subset _)
  have hcomplains := readTrimmed_complains htrimmed
  have hyields := oneLine_readTrimmed htrimmed
  unfold Command.read
  dsimp only
  generalize readTrimmed (trim line.toList) = outcome at hcomplains hyields
  cases outcome with
  | error fault =>
      constructor
      · refine complainsInLine_error (Refusal.oneLine_unreadable ?_ (hcomplains fault rfl))
        rw [String.toList_ofList]
        exact htrimmed
      · intro command hcommand
        cases hcommand
  | ok command =>
      constructor
      · exact complainsInLine_ok command
      · intro other hother
        cases hother
        exact hyields command rfl

end ChartBoard
