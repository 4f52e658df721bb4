import ChartBoard.Proofs.Text.Digits
import ChartBoard.Protocol.Refusal
import ChartBoard.Protocol.Reply

/-!
Reply lines are read as the replies that they carry. A client trims the end of a line before
it reads it, and again when it reads it; no message of a refusal suffers by that, for each has
something that is not blank at its end. So no error passes for success.
-/

namespace ChartBoard

open Text

namespace Text

/-- A text whose last character is not blank. -/
def EndsVisibly (text : List Char) : Prop := (text.getLast?.any fun c => !isBlank c) = true

instance instDecidableEndsVisibly (text : List Char) : Decidable (EndsVisibly text) :=
  inferInstanceAs (Decidable ((text.getLast?.any fun c => !isBlank c) = true))

namespace EndsVisibly

theorem ne_nil {text : List Char} (h : EndsVisibly text) : text ≠ [] := by
  intro hnil
  rw [hnil] at h
  cases h

theorem append (text : List Char) {later : List Char} (h : EndsVisibly later) :
    EndsVisibly (text ++ later) := by
  unfold EndsVisibly
  rw [List.getLast?_append_of_ne_nil text h.ne_nil]
  exact h

theorem exists_last {text : List Char} (h : EndsVisibly text) :
    ∃ before last, text = before ++ [last] ∧ isBlank last = false := by
  obtain ⟨last, hlast, hvisible⟩ := (Option.any_eq_true _ _).mp h
  obtain ⟨before, htext⟩ := List.getLast?_eq_some_iff.mp hlast
  exact ⟨before, last, htext, by simpa using hvisible⟩

theorem trimEnd_eq {text : List Char} (h : EndsVisibly text) : trimEnd text = text := by
  obtain ⟨before, last, rfl, hlast⟩ := h.exists_last
  exact trimEnd_concat before hlast

end EndsVisibly

theorem endsVisibly_ofList {text : List Char} (h : EndsVisibly text) :
    EndsVisibly (String.ofList text).toList := by
  rw [String.toList_ofList]
  exact h

theorem endsVisibly_string_append (text : String) {later : String} (h : EndsVisibly later.toList) :
    EndsVisibly (text ++ later).toList := by
  rw [String.toList_append]
  exact h.append text.toList

theorem endsVisibly_toString (n : Nat) : EndsVisibly (toString n).toList := by
  rw [toList_toString]
  obtain ⟨before, last, hdigits⟩ :=
    (List.eq_nil_or_concat' (toDigits n)).resolve_left (toDigits_ne_nil n)
  have hlast : last.isDigit = true := allDigits_toDigits n last (by rw [hdigits]; simp)
  rw [hdigits]
  simp [EndsVisibly, not_blank_of_isDigit last hlast]

end Text

theorem TimestampFault.endsVisibly_reason (fault : TimestampFault) :
    EndsVisibly fault.reason.toList := by
  cases fault with
  | fieldCount found => exact endsVisibly_string_append _ (endsVisibly_toString found)
  | notInteger field => exact endsVisibly_string_append _ (endsVisibly_ofList (by decide))
  | yearRange | millisecondRange | noSuchTime => exact endsVisibly_ofList (by decide)

theorem LineFault.endsVisibly_reason (fault : LineFault) : EndsVisibly fault.reason.toList := by
  cases fault with
  | noOperand | extraOperand | notFlag | notNumber | notIndex | notTriple | notDimension =>
      exact endsVisibly_string_append _ (endsVisibly_ofList (by decide))
  | notTimestamp text fault => exact endsVisibly_string_append _ fault.endsVisibly_reason
  | noAssignment | noName | notTimedValue | notGrid => exact endsVisibly_ofList (by decide)

/-- Every message of a refusal ends with something to be seen. -/
theorem Refusal.endsVisibly_message (refusal : Refusal) : EndsVisibly refusal.message.toList := by
  cases refusal with
  | unreadable line fault => exact endsVisibly_string_append _ fault.endsVisibly_reason
  | invalidValue name value expected =>
      refine endsVisibly_string_append _ ?_
      cases expected <;> exact endsVisibly_ofList (by decide)
  | gridTooLarge rows columns most => exact endsVisibly_string_append _ (endsVisibly_toString most)
  | unknownAttribute | unknownKind | noKind | notInitialized | noSuchPlot | tooManyPlots
    | unsupported =>
      exact endsVisibly_string_append _ (endsVisibly_ofList (by decide))

namespace Reply

/-- A reply with something to be seen at the end of its line. -/
def Visible : Reply → Prop
  | ok => True
  | error message => EndsVisibly message.toList

theorem endsVisibly_line {reply : Reply} (h : reply.Visible) : EndsVisibly reply.line.toList := by
  cases reply with
  | ok => exact endsVisibly_ofList (by decide)
  | error message => exact endsVisibly_string_append _ h

/-- However often the end of its line is trimmed, a reply is read from it. -/
theorem read_line {reply : Reply} (h : reply.Visible) :
    read (String.ofList (trimEnd (reply.line.toList ++ ['\n']))) = reply := by
  have hline := (endsVisibly_line h).trimEnd_eq
  rw [trimEnd_blank _ (by decide), hline, String.ofList_toList]
  unfold read
  rw [hline]
  cases reply with
  | ok => rfl
  | error message =>
      have hopening : errorOpening.toList.isPrefixOf? (line (.error message)).toList =
          some message.toList := by
        rw [line, String.toList_append]
        rfl
      rw [hopening]
      exact congrArg error String.ofList_toList

end Reply

end ChartBoard
