import ChartBoard.Proofs.Text.Encodings
import ChartBoard.Proofs.Text.Literals
import ChartBoard.Proofs.Text.Pieces
import ChartBoard.Settings.PortPrompt

/-!
Asking for a port goes on line by line until a line settles the answer (`PortPrompt.Settles`): it
is blank, it spells a port, or it is no text. Every line before it is rejected, and nothing behind
it is read (`PortPrompt.asking_stops_at_first_answer`).
-/

namespace ChartBoard

open Text

namespace PortPrompt

/-- A line that settles the answer. -/
inductive Settles (default : Nat) : List UInt8 → PortAnswer → Prop
  | blank {text : List Char} (htext : trim text = []) :
      Settles default (Utf8.encode text) (.port default)
  | spelled {text : List Char} {port : Nat} (htext : WholeText (trim text) port) (hleast : 1 ≤ port)
      (hgreatest : port ≤ 65535) : Settles default (Utf8.encode text) (.port port)
  | undecodable {line : List UInt8} (hline : ∀ text, line ≠ Utf8.encode text) :
      Settles default line .unreadable

variable {default : Nat}

theorem readAnswer?_eq_some_iff {answer : List Char} {port : Nat} :
    readAnswer? default answer = some port ↔
      answer = [] ∧ port = default ∨ WholeText answer port ∧ 1 ≤ port ∧ port ≤ 65535 := by
  have hword : word16 = 65536 := by decide
  unfold readAnswer?
  cases answer with
  | nil =>
      have hnone : ¬WholeText [] port := by
        rintro (⟨hne, -⟩)
        exact hne rfl
      simp [hnone, eq_comm]
  | cons c answer =>
      simp only [List.isEmpty_cons, Bool.false_eq_true, if_false, Option.filter_eq_some_iff,
        readNat?_eq_some_iff, bne_iff_ne, hword]
      constructor
      · rintro ⟨⟨htext, hbound⟩, hpositive⟩
        exact .inr ⟨htext, by omega, by omega⟩
      · rintro (⟨hnil, -⟩ | ⟨htext, hleast, hgreatest⟩)
        · cases hnil
        · exact ⟨⟨htext, by omega⟩, by omega⟩

theorem settles_encode_iff {text : List Char} {answer : PortAnswer} :
    Settles default (Utf8.encode text) answer ↔
      ∃ port, readAnswer? default (trim text) = some port ∧ answer = .port port := by
  simp only [readAnswer?_eq_some_iff]
  constructor
  · intro h
    generalize hline : Utf8.encode text = line at h
    cases h with
    | blank htext =>
        obtain rfl := Utf8.encode_injective hline
        exact ⟨default, .inl ⟨htext, rfl⟩, rfl⟩
    | @spelled _ port htext hleast hgreatest =>
        obtain rfl := Utf8.encode_injective hline
        exact ⟨port, .inr ⟨htext, hleast, hgreatest⟩, rfl⟩
    | undecodable hnone => exact absurd hline.symm (hnone text)
  · rintro ⟨port, ⟨htext, rfl⟩ | ⟨htext, hleast, hgreatest⟩, rfl⟩
    · exact .blank htext
    · exact .spelled htext hleast hgreatest

theorem Settles.default_eq_zero {line : List UInt8} (h : Settles default line (.port 0)) :
    default = 0 := by
  cases h with
  | blank => rfl
  | spelled _ hleast => cases hleast

/-- What is written for a line that is rejected: the question, and the answer that was no port. -/
def rejectedOutput (default : Nat) (text : List Char) : String :=
  question default ++ rejection (trim text)

theorem askLines_settled {line : List UInt8} {answer : PortAnswer} (h : Settles default line answer)
    (lines : List (List UInt8)) :
    askLines default (line :: lines) = ⟨answer, question default, line.length⟩ := by
  rw [askLines]
  cases hdecoded : Utf8.decode? line with
  | none =>
      have hline := Utf8.decode?_eq_none_iff.mp hdecoded
      cases h with
      | undecodable => rfl
      | blank | spelled => exact absurd rfl (hline _)
  | some text =>
      obtain rfl := Utf8.decode?_eq_some_iff.mp hdecoded
      obtain ⟨port, hport, rfl⟩ := settles_encode_iff.mp h
      dsimp only
      rw [hport]

theorem askLines_rejected {text : List Char}
    (h : ∀ answer, ¬Settles default (Utf8.encode text) answer) (lines : List (List UInt8)) :
    askLines default (Utf8.encode text :: lines) =
      { askLines default lines with
        output := rejectedOutput default text ++ (askLines default lines).output
        consumed := (Utf8.encode text).length + (askLines default lines).consumed } := by
  have hnone : readAnswer? default (trim text) = none := by
    rw [Option.eq_none_iff_forall_ne_some]
    exact fun port hport => h _ (settles_encode_iff.mpr ⟨port, hport, rfl⟩)
  rw [askLines, Utf8.decode?_encode]
  dsimp only
  rw [hnone, rejectedOutput]

/-- Lines that are rejected add what is written for them to what comes of the lines behind them. -/
theorem askLines_append {rejected : List (List Char)}
    (h : ∀ text ∈ rejected, ∀ answer, ¬Settles default (Utf8.encode text) answer)
    (lines : List (List UInt8)) :
    askLines default (rejected.map Utf8.encode ++ lines) =
      { askLines default lines with
        output :=
          String.join (rejected.map (rejectedOutput default)) ++ (askLines default lines).output
        consumed :=
          (rejected.map Utf8.encode).flatten.length + (askLines default lines).consumed } := by
  induction rejected with
  | nil => simp
  | cons text rejected ih =>
      have htext := h text List.mem_cons_self
      have hlater := fun later hmem => h later (List.mem_cons_of_mem text hmem)
      rw [List.map_cons, List.cons_append, askLines_rejected htext, ih hlater]
      simp [String.append_assoc, Nat.add_assoc]

/-- All lines are rejected, or there is a first one that settles the answer. -/
theorem exists_rejected (default : Nat) (lines : List (List UInt8)) :
    ∃ rejected : List (List Char),
      (∀ text ∈ rejected, ∀ answer, ¬Settles default (Utf8.encode text) answer) ∧
      (lines = rejected.map Utf8.encode ∨ ∃ line later answer,
        lines = rejected.map Utf8.encode ++ line :: later ∧ Settles default line answer) := by
  induction lines with
  | nil => exact ⟨[], fun _ hmem => absurd hmem List.not_mem_nil, .inl rfl⟩
  | cons line lines ih =>
      by_cases hsettles : ∃ answer, Settles default line answer
      · obtain ⟨answer, hanswer⟩ := hsettles
        exact ⟨[], fun _ hmem => absurd hmem List.not_mem_nil,
          .inr ⟨line, lines, answer, rfl, hanswer⟩⟩
      · have hnot : ∀ answer, ¬Settles default line answer := not_exists.mp hsettles
        obtain ⟨text, rfl⟩ : ∃ text, line = Utf8.encode text := by
          by_contra hnone
          exact hnot _ (.undecodable (not_exists.mp hnone))
        obtain ⟨rejected, hrejected, hlines⟩ := ih
        refine ⟨text :: rejected, List.forall_mem_cons.mpr ⟨hnot, hrejected⟩, hlines.imp ?_ ?_⟩
        · rintro rfl
          rfl
        · rintro ⟨first, later, answer, rfl, hanswer⟩
          exact ⟨first, later, answer, rfl, hanswer⟩

/-- On every input the asking comes to an end: it rejects the lines up to the first one that settles
the answer, or all of them. It writes the question and a rejection for each of these, and then the
question once more. It has read the lines up to the one that settled the answer and nothing behind
it: with other bytes behind its newline all is the same. The port is zero only if the default is. -/
theorem asking_stops_at_first_answer (default : Nat) (input : List UInt8) :
    ∃ rejected : List (List Char),
      (∀ text ∈ rejected, ∀ answer, ¬Settles default (Utf8.encode text) answer) ∧
      (ask default input).output =
        String.join (rejected.map (rejectedOutput default)) ++ question default ∧
      (cutLines input = rejected.map Utf8.encode ∧ (ask default input).answer = .none ∧
          (ask default input).consumed = input.length ∨
        ∃ line later, cutLines input = rejected.map Utf8.encode ++ line :: later ∧
          Settles default line (ask default input).answer ∧
          let read := (rejected.map Utf8.encode).flatten ++ line
          input = read ++ later.flatten ∧ (ask default input).consumed = read.length ∧
            (line.getLast? = some newline →
              ∀ behind, ask default (read ++ behind) = ask default input)) ∧
      ((ask default input).answer = .port 0 → default = 0) := by
  obtain ⟨asked, hasked⟩ : ∃ asked, asked = ask default input := ⟨_, rfl⟩
  rw [← hasked]
  rw [ask] at hasked
  have hinput := flatten_cutLines input
  obtain ⟨rejected, hrejected, hlines | ⟨line, later, answer, hlines, hanswer⟩⟩ :=
    exists_rejected default (cutLines input)
  · rw [hlines, ← List.append_nil (rejected.map _), askLines_append hrejected, askLines] at hasked
    rw [hlines] at hinput
    refine ⟨rejected, hrejected, ?_, .inl ⟨hlines, ?_, ?_⟩, fun hzero => ?_⟩
    · rw [hasked]
    · rw [hasked]
    · rw [hasked, ← hinput]
      rfl
    · rw [hasked] at hzero
      cases hzero
  · have hrun (lines : List (List UInt8)) :
        askLines default (rejected.map Utf8.encode ++ line :: lines) = asked := by
      rw [hasked, hlines, askLines_append hrejected, askLines_append hrejected,
        askLines_settled hanswer, askLines_settled hanswer]
    rw [hlines, askLines_append hrejected, askLines_settled hanswer] at hasked
    rw [hlines, List.flatten_append, List.flatten_cons, ← List.append_assoc] at hinput
    refine ⟨rejected, hrejected, ?_, .inr ⟨line, later, hlines, ?_, hinput.symm, ?_, ?_⟩, ?_⟩
    · rw [hasked]
    · rw [hasked]
      exact hanswer
    · rw [hasked, List.length_append]
    · intro hnewline behind
      rw [ask, cutLines_append_of_newline hlines hnewline]
      exact hrun (cutLines behind)
    · intro hzero
      rw [hasked] at hzero
      obtain rfl : answer = .port 0 := hzero
      exact hanswer.default_eq_zero

end PortPrompt

end ChartBoard
