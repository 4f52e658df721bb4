import ChartBoard.Proofs.Client.Calls
import ChartBoard.Proofs.Protocol.WrittenLines

/-!
What a client writes is read as it was meant. The line of each call is put together from
keywords, numbers and timestamps; a server reads it as the command of the call, with the same
index, the same values and the timestamp cut to milliseconds. A value that is not finite has
no place in a line, and its line is refused.
-/

namespace ChartBoard

open Text

namespace Client

section Lines

theorem sequentialLine_eq (values : List Binary64) :
    String.intercalate "," (values.map Binary64.text) =
      String.ofList (Command.sequentialLine values) := by
  rw [← String.toList_inj, String.toList_intercalate, List.map_map, Command.sequentialLine]
  exact String.toList_ofList.symm

theorem pointLine_eq (p : PlotPoint) :
    toString p.plot ++ ":" ++ p.x.text ++ ":" ++ p.y.text =
      String.ofList (Command.pointLine p) := by
  rw [← String.toList_inj, String.toList_ofList]
  simp [Command.pointLine, Command.triple, List.intercalate_cons_cons, toDigits]

theorem timedLine_eq (plot : Nat) (time : Timestamp) (y : Binary64) :
    toString plot ++ ":" ++ time.text ++ ":" ++ y.text =
      String.ofList (Command.timedLine plot time y) := by
  rw [← String.toList_inj, String.toList_ofList]
  simp [Command.timedLine, Command.triple, List.intercalate_cons_cons, toDigits]

theorem keywordLine_eq (keyword : String) (plot : Nat) :
    keyword ++ " " ++ toString plot =
      String.ofList (Command.keywordLine keyword (toDigits plot)) := by
  rw [← String.toList_inj, String.toList_ofList]
  simp [Command.keywordLine, toDigits]

theorem assignmentLine_eq (name value : String) :
    Keyword.set ++ name ++ "=" ++ value =
      String.ofList (Command.assignmentLine name.toList value.toList) := by
  rw [← String.toList_inj, String.toList_ofList]
  simp [Command.assignmentLine]

end Lines

variable {σ : Type} [Link σ]

/-- A call sends one line and nothing else, and keeps back what it kept. -/
def Sends (call : Call (Recorded σ) Unit) (client : Client (Recorded σ)) (line : String) : Prop :=
  (run call client).2.link.sent = client.link.sent ++ [Connection.wireLine line] ∧
    (run call client).2.cache = client.cache

/-- A call keeps back one line and sends nothing. -/
def KeepsBack (call : Call (Recorded σ) Unit) (client : Client (Recorded σ))
    (line : String) : Prop :=
  (run call client).2.link.sent = client.link.sent ∧
    (run call client).2.cache = client.cache ++ [line]

/-- A call with data writes one line, to be sent at once or later. -/
def Writes (call : Call (Recorded σ) Unit) (client : Client (Recorded σ)) (line : String) : Prop :=
  if client.caching then KeepsBack call client line else Sends call client line

variable (client : Client (Recorded σ))

theorem sends_command (line : String) : Sends (command line) client line := by
  unfold Sends
  rw [run_command]
  exact ⟨rfl, rfl⟩

theorem writes_sendData (line : String) : Writes (sendData line) client line := by
  unfold Writes
  split
  · rename_i hcaching
    unfold KeepsBack
    rw [run_sendData, if_pos hcaching]
    exact ⟨rfl, rfl⟩
  · rename_i hcaching
    have hsends := sends_command client line
    unfold Sends at hsends ⊢
    rw [run_sendData, if_neg hcaching]
    exact hsends

theorem writes_addValues {values : List Binary64} (hne : values ≠ []) :
    Writes (addValues values) client (String.ofList (Command.sequentialLine values)) := by
  have hempty : ¬values.isEmpty = true := by simpa using hne
  unfold addValues
  rw [if_neg hempty, sequentialLine_eq]
  exact writes_sendData client _

theorem writes_addPoint (p : PlotPoint) :
    Writes (addPoint p) client (String.ofList (Command.pointLine p)) := by
  unfold addPoint
  rw [pointLine_eq]
  exact writes_sendData client _

theorem writes_addTimed (plot : Nat) (time : Timestamp) (y : Binary64) :
    Writes (addTimed plot time y) client (String.ofList (Command.timedLine plot time y)) := by
  unfold addTimed
  rw [timedLine_eq]
  exact writes_sendData client _

theorem toList_gridValue (rows columns : Nat) :
    (toString rows ++ "," ++ toString columns).toList =
      toDigits rows ++ ',' :: toDigits columns := by
  simp [toDigits]

/-- The value of a grid is read as the grid. -/
theorem readGrid_eq {rows columns : Nat} (hrows : 1 ≤ rows ∧ rows < word64)
    (hcolumns : 1 ≤ columns ∧ columns < word64) :
    Session.readGrid (toString rows ++ "," ++ toString columns) = .ok ⟨rows, columns⟩ := by
  have hdimension {n : Nat} (h : 1 ≤ n ∧ n < word64) :
      Session.readDimension (toDigits n) = .ok n := by
    have htrim : trim (toDigits n) = toDigits n :=
      trim_free (Command.free_blank_index n)
    rw [Session.readDimension, htrim, readNat?_toDigits h.2, Option.filter_some,
      if_pos (by simpa using Nat.lt_of_succ_le h.1)]
  have hcut : splitFirst? (· == ',') (toDigits rows ++ ',' :: toDigits columns) =
      some (toDigits rows, toDigits columns) :=
    splitFirst?_append ((allDigits_toDigits rows).free (beq_of_isDigit (by decide))) (by decide) _
  rw [Session.readGrid, toList_gridValue, hcut]
  dsimp only
  rw [hdimension hrows, hdimension hcolumns]
  rfl

theorem read_gridLine (rows columns : Nat) :
    Command.read (String.ofList (Command.assignmentLine SettingName.grid.toList
      (toString rows ++ "," ++ toString columns).toList)) =
      .ok (.set SettingName.grid (toString rows ++ "," ++ toString columns)) := by
  have hend : trimEnd (toDigits rows ++ ',' :: toDigits columns) =
      toDigits rows ++ ',' :: toDigits columns := by
    rw [trimEnd_append_cons _ (by decide), trimEnd_free (Command.free_blank_index columns)]
  rw [Command.read_assignmentLine (by decide) (by decide) (by decide), toList_gridValue, hend,
    String.ofList_toList, ← toList_gridValue, String.ofList_toList]

/-- What a client writes is read as it was meant: values in their order, a point, a value at
a timestamp, the operands of commands and a grid come out as they went in, the timestamp cut
to milliseconds; and a line with a value that is not finite is refused. -/
theorem lines_read_as_meant :
    (∀ values, values ≠ [] → (∀ x ∈ values, x.isFinite = true) →
      ∃ line, Writes (addValues values) client line ∧
        Command.read line = .ok (.data (.sequential values))) ∧
    (∀ p : PlotPoint, p.plot < word64 → p.x.isFinite = true → p.y.isFinite = true →
      ∃ line, Writes (addPoint p) client line ∧ Command.read line = .ok (.data (.points [p]))) ∧
    (∀ (plot : Nat) (time : Timestamp) (y : Binary64), plot < word64 → 0 ≤ time.year →
      y.isFinite = true →
      ∃ line, Writes (addTimed plot time y) client line ∧
        Command.read line = .ok (.data (.timed plot time.truncated y))) ∧
    (∀ plot < word64,
      (∃ line, Sends (clear plot) client line ∧ Command.read line = .ok (.clear plot)) ∧
      ∃ line, Sends (replot plot) client line ∧ Command.read line = .ok (.replot plot)) ∧
    (∀ enabled, ∃ line, Sends (enableStatus enabled) client line ∧
      Command.read line = .ok (.enableStatus enabled)) ∧
    (∀ rows columns, 1 ≤ rows ∧ rows < word64 → 1 ≤ columns ∧ columns < word64 →
      ∃ line value, Sends (setGrid rows columns) client line ∧
        Command.read line = .ok (.set SettingName.grid value) ∧
        Session.readGrid value = .ok ⟨rows, columns⟩) ∧
    (∀ values, (∃ x ∈ values, x.isFinite = false) →
      ∃ line refusal, Writes (addValues values) client line ∧ Command.read line = .error refusal) ∧
    (∀ p : PlotPoint, p.x.isFinite = false ∨ p.y.isFinite = false →
      ∃ line refusal, Writes (addPoint p) client line ∧ Command.read line = .error refusal) ∧
    ∀ (plot : Nat) (time : Timestamp) (y : Binary64), y.isFinite = false →
      ∃ line refusal, Writes (addTimed plot time y) client line ∧
        Command.read line = .error refusal := by
  refine ⟨?values, ?point, ?timed, ?operand, ?status, ?grid, ?wrongValues, ?wrongPoint, ?wrongTimed⟩
  case values =>
    intro values hne hfinite
    exact ⟨_, writes_addValues client hne, Command.read_sequentialLine hne hfinite⟩
  case point =>
    intro p hplot hx hy
    exact ⟨_, writes_addPoint client p, Command.read_pointLine hplot hx hy⟩
  case timed =>
    intro plot time y hplot hyear hy
    exact ⟨_, writes_addTimed client plot time y, Command.read_timedLine hplot hyear hy⟩
  case operand =>
    intro plot hplot
    refine ⟨⟨_, sends_command client _, ?_⟩, _, sends_command client _, ?_⟩
    · rw [keywordLine_eq]
      exact Command.read_clearLine hplot
    · rw [keywordLine_eq]
      exact Command.read_replotLine hplot
  case status =>
    intro enabled
    refine ⟨_, sends_command client _, ?_⟩
    have hline : Keyword.enableStatus ++ " " ++ (if enabled then "1" else "0") =
        String.ofList
          (Command.keywordLine Keyword.enableStatus (if enabled then ['1'] else ['0'])) := by
      cases enabled <;> decide
    rw [hline]
    exact Command.read_statusLine enabled
  case grid =>
    intro rows columns hrows hcolumns
    refine ⟨_, _, sends_command client _, ?_, readGrid_eq hrows hcolumns⟩
    rw [assignmentLine_eq]
    exact read_gridLine rows columns
  case wrongValues =>
    intro values hvalues
    obtain ⟨refusal, hrefused⟩ := Command.read_sequentialLine_error hvalues
    have hne : values ≠ [] := by
      obtain ⟨x, hx, -⟩ := hvalues
      exact List.ne_nil_of_mem hx
    exact ⟨_, refusal, writes_addValues client hne, hrefused⟩
  case wrongPoint =>
    intro p hp
    obtain ⟨refusal, hrefused⟩ := Command.read_pointLine_error hp
    exact ⟨_, refusal, writes_addPoint client p, hrefused⟩
  case wrongTimed =>
    intro plot time y hy
    obtain ⟨refusal, hrefused⟩ := Command.read_timedLine_error hy
    exact ⟨_, refusal, writes_addTimed client plot time y, hrefused⟩

/-- The least negative number and zero are told apart from all others, the end of a leap second
is read within the second before it, and an infinite value among finite ones is refused. -/
theorem lines_read_as_meant_leap_second :
    let client : Client (Recorded ScriptedLink) :=
      { link := { link := { inbox := ⟨[], .silence⟩ } }, version := .zero, patience := 0 }
    let least : Binary64 := .finite true ⟨1, by decide⟩
    let time : Timestamp := ⟨2016, 12, 31, 23, 59, 59, 1999999999, by decide, by decide⟩
    (∃ line, Writes (addValues [least, .zero]) client line ∧
      Command.read line = .ok (.data (.sequential [least, .zero]))) ∧
    (∃ line, Writes (addPoint ⟨7, least, .zero⟩) client line ∧
      Command.read line = .ok (.data (.points [⟨7, least, .zero⟩]))) ∧
    (∃ line, Writes (addTimed 7 time least) client line ∧
      Command.read line = .ok (.data (.timed 7 time.truncated least)) ∧
      time.truncated.nanosecond = 999000000) ∧
    (∃ line, Sends (clear 7) client line ∧ Command.read line = .ok (.clear 7)) ∧
    (∃ line, Sends (replot 7) client line ∧ Command.read line = .ok (.replot 7)) ∧
    (∃ line value, Sends (setGrid 2 3) client line ∧
      Command.read line = .ok (.set SettingName.grid value) ∧ Session.readGrid value = .ok ⟨2, 3⟩) ∧
    (∃ line refusal, Writes (addValues [.zero, .infinite true]) client line ∧
      Command.read line = .error refusal) ∧
    (∃ line refusal, Writes (addPoint ⟨7, .notANumber, .zero⟩) client line ∧
      Command.read line = .error refusal) ∧
    ∃ line refusal, Writes (addTimed 7 time .notANumber) client line ∧
      Command.read line = .error refusal := by
  intro client least time
  obtain ⟨hvalues, hpoint, htimed, hoperand, -, hgrid, hwrongValues, hwrongPoint, hwrongTimed⟩ :=
    lines_read_as_meant client
  obtain ⟨line, hwrites, hread⟩ := htimed 7 time least (by decide) (by decide) rfl
  obtain ⟨hclear, hreplot⟩ := hoperand 7 (by decide)
  refine ⟨hvalues [least, .zero] (List.cons_ne_nil _ _) (by decide),
    hpoint ⟨7, least, .zero⟩ (by decide) rfl rfl, ⟨line, hwrites, hread, by decide⟩,
    hclear, hreplot, hgrid 2 3 (by decide) (by decide),
    hwrongValues _ ⟨.infinite true, by decide, rfl⟩, hwrongPoint _ (.inl rfl),
    hwrongTimed 7 time .notANumber rfl⟩

end Client

end ChartBoard
