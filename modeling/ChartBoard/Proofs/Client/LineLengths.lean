import ChartBoard.Proofs.Client.CallLines
import ChartBoard.Proofs.Number.TextLength

/-!
How much room the lines of a client need. In a line with values each character is one byte, and
numbers, indices and timestamps have texts of bounded length. So a line with at most two numbers,
all finite, is within every limit from 4096 bytes on, and so is a line that assigns a value of half
as many bytes.
-/

namespace ChartBoard

open Text Connection

namespace Utf8

/-- Text in the first 128 characters has one byte for each. -/
theorem length_encode {text : List Char} (h : ∀ c ∈ text, c.utf8Size = 1) :
    (encode text).length = text.length := by
  induction text with
  | nil => rfl
  | cons c text ih =>
      obtain ⟨hc, htext⟩ := List.forall_mem_cons.mp h
      have hcons : encode (c :: text) = String.utf8EncodeChar c ++ encode text := List.flatMap_cons
      rw [hcons, List.length_append, ih htext, String.length_utf8EncodeChar, hc, List.length_cons,
        Nat.add_comm]

theorem length_encode_digitsAnd {others text : List Char}
    (hothers : others.all (fun c => c.val ≤ 127) = true) (h : DigitsAnd others text) :
    (encode text).length = text.length := by
  refine length_encode fun c hc => ?_
  rw [Char.utf8Size_eq_one_iff]
  rcases h c hc with hdigit | hother
  · have hmost : c.val ≤ 57 := of_decide_eq_true (Bool.and_eq_true_iff.mp hdigit).2
    exact UInt32.le_trans hmost (by decide)
  · exact of_decide_eq_true (List.all_eq_true.mp hothers c hother)

end Utf8

/-- The limit from which on a server takes every line with at most two finite numbers. -/
def roomyLimit : Nat := 4096

namespace Timestamp

theorem length_text_le {t : Timestamp} (h : 0 ≤ t.year) : t.text.toList.length ≤ 76 := by
  obtain ⟨year, hyear⟩ := Int.eq_ofNat_of_zero_le h
  have hword {n : Nat} (hn : n < word32) : (toDigits n).length ≤ 10 :=
    length_toDigits_le_of_lt (Nat.lt_trans hn (by decide)) (by decide)
  have hfirst : (toString t.year).toList.length ≤ 10 := by
    have htext : (toString t.year).toList = toDigits year := by
      rw [hyear]
      exact toList_toString year
    rw [htext]
    exact hword (Nat.lt_trans (year_lt hyear) (by decide))
  have hlater := fun n hn => hword (t.lt_word32_of_mem_laterNumbers (n := n) hn)
  rw [toList_text]
  simp only [laterNumbers, List.forall_mem_cons] at hlater
  simp only [laterNumbers, List.map_cons, List.map_nil, List.intercalate_cons_cons,
    List.intercalate_singleton, List.length_append, List.length_cons, List.length_nil]
  omega

end Timestamp

namespace Command

theorem length_triple (first second third : List Char) :
    (triple first second third).length = first.length + second.length + third.length + 2 := by
  simp only [triple, List.intercalate_cons_cons, List.intercalate_singleton, List.length_append,
    List.length_singleton]
  omega

theorem length_index_le {plot : Nat} (h : plot < word64) : (toDigits plot).length ≤ 20 :=
  length_toDigits_le_of_lt (Nat.lt_trans h (by decide)) (by decide)

section Fits

variable {limit : Nat} (hlimit : roomyLimit ≤ limit)

include hlimit

theorem sendable_data {line : List Char} (hdata : DigitsAnd dataCharacters line)
    (hlength : line.length ≤ roomyLimit) : Sendable limit (String.ofList line) := by
  have hbytes : (Utf8.encode (String.ofList line).toList).length = line.length := by
    rw [String.toList_ofList]
    exact Utf8.length_encode_digitsAnd (by decide) hdata
  refine ⟨⟨?_, .inr ?_⟩, ClientCall.oneLine_data hdata⟩
  · rw [hbytes]
    exact Nat.le_trans hlength hlimit
  · rw [hbytes]
    exact Nat.lt_of_le_of_lt (Nat.succ_le_succ hlength) (by decide)

theorem sendable_sequentialLine {values : List Binary64} (hfew : values.length ≤ 2)
    (hfinite : ∀ x ∈ values, x.isFinite = true) :
    Sendable limit (String.ofList (sequentialLine values)) := by
  refine sendable_data hlimit (digitsAnd_sequentialLine values) ?_
  have hlength : ∀ x ∈ values, x.text.toList.length ≤ 1621 := fun x hx =>
    Binary64.length_text_le (hfinite x hx)
  unfold sequentialLine roomyLimit
  match values, hfew with
  | [], _ => decide
  | [x], _ =>
      have hx := hlength x List.mem_cons_self
      rw [List.map_singleton, List.intercalate_singleton]
      omega
  | [x, y], _ =>
      simp only [List.forall_mem_cons] at hlength
      simp only [List.map_cons, List.map_nil, List.intercalate_cons_cons,
        List.intercalate_singleton, List.length_append, List.length_singleton]
      omega

theorem sendable_pointLine {p : PlotPoint} (hplot : p.plot < word64) (hx : p.x.isFinite = true)
    (hy : p.y.isFinite = true) : Sendable limit (String.ofList (pointLine p)) := by
  refine sendable_data hlimit (digitsAnd_pointLine p) ?_
  have hindex := length_index_le hplot
  have hfirst := Binary64.length_text_le hx
  have hsecond := Binary64.length_text_le hy
  rw [pointLine, length_triple, roomyLimit]
  omega

theorem sendable_timedLine {plot : Nat} {time : Timestamp} {y : Binary64} (hplot : plot < word64)
    (hyear : 0 ≤ time.year) (hy : y.isFinite = true) :
    Sendable limit (String.ofList (timedLine plot time y)) := by
  refine sendable_data hlimit (digitsAnd_timedLine plot time y) ?_
  have hindex := length_index_le hplot
  have htime := Timestamp.length_text_le hyear
  have hvalue := Binary64.length_text_le hy
  rw [timedLine, length_triple, roomyLimit]
  omega

end Fits

end Command

/-- A text that takes at most half the room of a line. -/
def Short (text : String) : Prop := (Utf8.encode text.toList).length ≤ 2048

instance (text : String) : Decidable (Short text) := Nat.decLe _ _

/-- The settings of a plot that can be sent: finite numbers, and short names on one line. -/
structure PlotSettings.Sendable (settings : PlotSettings) : Prop where
  minScale : settings.minScale.isFinite = true
  maxScale : settings.maxScale.isFinite = true
  names : ∀ text ∈ [settings.plotName, settings.xAxisName, settings.yAxisName],
    OneLine text.toList ∧ Short text

namespace ClientCall

theorem short_flag (flag : Bool) : Short (Attributes.flagText flag) := by
  cases flag <;> decide

theorem short_toString {n : Nat} (h : n < word64) : Short (toString n) := by
  rw [Short, toList_toString, Utf8.length_encode_digitsAnd rfl
    ((allDigits_toDigits n).digitsAnd [])]
  exact Nat.le_trans (Command.length_index_le h) (by decide)

theorem short_number {x : Binary64} (h : x.isFinite = true) : Short x.text := by
  rw [Short, Utf8.length_encode_digitsAnd (by decide) x.digitsAnd_text]
  exact Nat.le_trans (Binary64.length_text_le h) (by decide)

/-- Whatever is said of a plot is short, if its names are. -/
theorem short_value {settings : PlotSettings} (h : settings.Sendable) :
    ∀ entry ∈ settings.assignments, Short entry.2 := by
  have hnames := h.names
  have hword32 (n : UInt32) : n.toNat < word64 := Nat.lt_trans n.toNat_lt (by decide)
  simp only [List.forall_mem_cons] at hnames
  obtain ⟨⟨-, hplot⟩, ⟨-, hx⟩, ⟨-, hy⟩, -⟩ := hnames
  simp only [PlotSettings.assignments, List.forall_mem_cons, List.not_mem_nil, false_imp_iff,
    implies_true, and_true]
  exact ⟨hplot, hx, hy, short_flag _, short_toString (hword32 _), short_flag _, short_flag _,
    short_number h.minScale, short_number h.maxScale, short_toString (UInt64.toNat_lt _),
    short_flag _, short_flag _, short_flag _, short_toString (hword32 _)⟩

section Room

variable {limit : Nat} (hlimit : roomyLimit ≤ limit)

include hlimit

theorem sendable_of_room {line : String} (hone : OneLine line.toList)
    (hroom : (Utf8.encode line.toList).length ≤ roomyLimit) : Sendable limit line :=
  ⟨⟨Nat.le_trans hroom hlimit, .inr (Nat.lt_of_le_of_lt (Nat.succ_le_succ hroom)
    (by decide))⟩, hone⟩

theorem sendable_attribute (item : Attribute) {value : String} (hone : OneLine value.toList)
    (hshort : Short value) : Sendable limit (assignment item.name value) := by
  refine sendable_of_room hlimit (oneLine_assignment (oneLine_attribute item) hone) ?_
  have hname : (Utf8.encode (Keyword.set ++ item.name ++ "=").toList).length ≤ 2048 := by
    cases item <;> decide
  rw [assignment, String.toList_append, Utf8.encode_append, List.length_append]
  exact Nat.add_le_add hname hshort

theorem sendable_chartLines {title : String} (kind : ChartKind) (hone : OneLine title.toList)
    (hshort : Short title) : ∀ line ∈ chartLines title kind, Sendable limit line := by
  have hkind : Sendable limit (assignment SettingName.graph kind.name) :=
    sendable_of_room hlimit (oneLine_assignment (oneLine_ofList (by decide)) (oneLine_kind kind))
      (by cases kind <;> decide)
  have hinit : ∀ line ∈ [Keyword.init], Sendable limit line :=
    List.forall_mem_singleton.mpr (sendable_of_room hlimit (oneLine_ofList (by decide)) (by decide))
  refine List.forall_mem_cons.mpr ⟨hkind, List.forall_mem_append.mpr ⟨?_, hinit⟩⟩
  split
  · exact List.forall_mem_nil _
  · exact List.forall_mem_singleton.mpr (sendable_attribute hlimit _ hone hshort)

theorem sendable_plotLines {settings : PlotSettings} (h : settings.Sendable) :
    ∀ line ∈ plotLines (some settings), Sendable limit line := by
  have hadd : ∀ line ∈ [Keyword.addPlot], Sendable limit line :=
    List.forall_mem_singleton.mpr (sendable_of_room hlimit (oneLine_ofList (by decide)) (by decide))
  refine List.forall_mem_append.mpr ⟨fun line hline => ?_, hadd⟩
  obtain ⟨entry, hentry, rfl⟩ := List.mem_map.mp hline
  exact sendable_attribute hlimit entry.1
    (oneLine_value (fun text htext => (h.names text htext).1) entry hentry)
      (short_value h entry hentry)

end Room

end ClientCall

end ChartBoard
