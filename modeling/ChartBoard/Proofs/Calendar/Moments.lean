import ChartBoard.Proofs.Calendar.TimestampGrammar

/-!
The texts of timestamps and the moments that they name. Seven numbers are a moment if the calendar
has their date and the clock their time; the calendar is told here by the lengths of its months and
the rule for leap years, apart from the functions that count days. Exactly the texts that spell the
numbers of a moment are read, and reading gives that moment (`Timestamp.read_eq_ok_iff_moment`). A
timestamp from the year zero on that is written and read again keeps its whole milliseconds; a
negative year is written with a sign, which no field may have (`Timestamp.read_text_negative`).
-/

namespace ChartBoard

open Text

namespace Calendar

/-- The lengths of the months, January first. Every fourth year is a leap year, but of the years
that end a century only every fourth one is. -/
def monthLengths (year : Nat) : List Nat :=
  [31, if 4 ∣ year ∧ (100 ∣ year → 400 ∣ year) then 29 else 28, 31, 30, 31, 30, 31, 31, 30, 31,
    30, 31]

theorem isLeapYear_iff (year : Nat) :
    isLeapYear year = true ↔ 4 ∣ year ∧ (100 ∣ year → 400 ∣ year) := by
  simp only [isLeapYear, Bool.and_eq_true, Bool.or_eq_true, beq_iff_eq, bne_iff_ne]
  omega

theorem daysInMonth_eq (year : Nat) {month : Nat} (hfirst : 1 ≤ month) (hlast : month ≤ 12) :
    daysInMonth year month = (monthLengths year).getD (month - 1) 0 := by
  obtain rfl | hother := Decidable.em (month = 2)
  · simp only [daysInMonth, isLeapYear_iff]
    rfl
  · obtain rfl | rfl | rfl | rfl | rfl | rfl | rfl | rfl | rfl | rfl | rfl : month = 1 ∨ month = 3 ∨
      month = 4 ∨ month = 5 ∨ month = 6 ∨ month = 7 ∨ month = 8 ∨ month = 9 ∨ month = 10 ∨
      month = 11 ∨ month = 12 := by omega
    all_goals rfl

end Calendar

/-- Seven numbers that may name a moment, down to the millisecond. -/
structure Moment where
  year : Nat
  month : Nat
  day : Nat
  hour : Nat
  minute : Nat
  second : Nat
  millisecond : Nat
deriving DecidableEq

namespace Moment

def numbers (m : Moment) : List Nat :=
  [m.year, m.month, m.day, m.hour, m.minute, m.second, m.millisecond]

/-- The calendar has the date, and the clock the time. -/
structure Exists (m : Moment) : Prop where
  year : m.year ≤ 262142
  month : 1 ≤ m.month ∧ m.month ≤ 12
  day : 1 ≤ m.day ∧ m.day ≤ (Calendar.monthLengths m.year).getD (m.month - 1) 0
  hour : m.hour < 24
  minute : m.minute < 60
  second : m.second < 60
  millisecond : m.millisecond ≤ 999

/-- A text of seven fields between semicolons that are, blanks around them aside, the numbers as
unsigned 32-bit literals. -/
def Spelled (text : List Char) (m : Moment) : Prop :=
  List.Forall₂ (fun field n => WholeText (trim field) n ∧ n < 2 ^ 32) (text.splitOn ';') m.numbers

theorem exists_iff (m : Moment) : m.Exists ↔ Calendar.isDate m.year m.month m.day = true ∧
    Calendar.isTime m.hour m.minute m.second (m.millisecond * 1000000) = true ∧
      m.millisecond ≤ 999 := by
  simp only [Calendar.isDate, Calendar.isTime, Bool.and_eq_true, decide_eq_true_eq]
  simp only [Calendar.firstYear, Calendar.lastYear]
  constructor
  · rintro ⟨hyear, hmonth, hday, hhour, hminute, hsecond, hmillisecond⟩
    rw [← Calendar.daysInMonth_eq m.year hmonth.1 hmonth.2] at hday
    omega
  · rintro ⟨hdate, htime, hmillisecond⟩
    have hfirst : 1 ≤ m.month := by
      by_contra hzero
      obtain hmonth : m.month = 0 := by omega
      rw [hmonth] at hdate
      simp only [Calendar.daysInMonth] at hdate
      omega
    have hlast : m.month ≤ 12 := by
      by_contra hlarge
      rw [Calendar.daysInMonth_eq_zero (Nat.not_le.mp hlarge)] at hdate
      omega
    rw [Calendar.daysInMonth_eq m.year hfirst hlast] at hdate
    refine ⟨?_, ⟨hfirst, hlast⟩, ?_, ?_, ?_, ?_, hmillisecond⟩
    all_goals omega

end Moment

/-- A text spells one moment at most. -/
theorem Moment.Spelled.unique {text : List Char} {m m' : Moment} (h : m.Spelled text)
    (h' : m'.Spelled text) : m = m' := by
  have hsame {fields : List (List Char)} {ns ns' : List Nat}
      (hns : List.Forall₂ (fun field n => WholeText (trim field) n ∧ n < 2 ^ 32) fields ns)
      (hns' : List.Forall₂ (fun field n => WholeText (trim field) n ∧ n < 2 ^ 32) fields ns') :
      ns = ns' := by
    induction hns generalizing ns' with
    | nil => cases hns'; rfl
    | cons hfield _ ih =>
        cases hns' with
        | cons hfield' hlater => rw [hfield.1.unique hfield'.1, ih hlater]
  have hnumbers := hsame h h'
  cases m
  cases m'
  simpa [Moment.numbers] using hnumbers

namespace Timestamp

/-- The timestamp of a moment: its fraction is the whole milliseconds. -/
structure IsAt (t : Timestamp) (m : Moment) : Prop where
  year : t.year = m.year
  month : t.month = m.month
  day : t.day = m.day
  hour : t.hour = m.hour
  minute : t.minute = m.minute
  second : t.second = m.second
  nanosecond : t.nanosecond = m.millisecond * 1000000

theorem exists_isAt {m : Moment} (h : m.Exists) : ∃ t : Timestamp, t.IsAt m := by
  obtain ⟨hdate, htime, -⟩ := m.exists_iff.mp h
  exact ⟨⟨m.year, m.month, m.day, m.hour, m.minute, m.second, m.millisecond * 1000000,
    hdate, htime⟩, rfl, rfl, rfl, rfl, rfl, rfl, rfl⟩

theorem numbers_iff {t : Timestamp} {numbers : List Nat} :
    Numbers t numbers ↔ ∃ m : Moment, m.numbers = numbers ∧ m.Exists ∧ t.IsAt m := by
  constructor
  · rintro ⟨hyear, hmillisecond, hnanosecond⟩
    rename_i year millisecond
    refine ⟨⟨year, t.month, t.day, t.hour, t.minute, t.second, millisecond⟩, rfl, ?_,
      hyear, rfl, rfl, rfl, rfl, rfl, hnanosecond⟩
    exact (Moment.exists_iff _).mpr ⟨hyear ▸ t.isDate, hnanosecond ▸ t.isTime, hmillisecond⟩
  · rintro ⟨m, rfl, hexists, hyear, hmonth, hday, hhour, hminute, hsecond, hnanosecond⟩
    have hnumbers : Numbers t [m.year, t.month, t.day, t.hour, t.minute, t.second, m.millisecond] :=
      .intro hyear hexists.millisecond hnanosecond
    rwa [hmonth, hday, hhour, hminute, hsecond] at hnumbers

/-- The texts that are read are those that spell a moment, and the moment is what is read. -/
theorem read_eq_ok_iff_moment {text : List Char} {t : Timestamp} :
    read text = .ok t ↔ ∃ m : Moment, m.Spelled text ∧ m.Exists ∧ t.IsAt m := by
  rw [read_eq_ok_iff]
  constructor
  · rintro ⟨hnumbers, hfields⟩
    have hbounded := (List.forall₂_and_left _ _).mpr ⟨hnumbers.lt_word32, hfields.flip⟩
    obtain ⟨m, rfl, hexists, hat⟩ := numbers_iff.mp hnumbers
    exact ⟨m, hbounded.flip.imp fun _ _ h => ⟨h.2, h.1⟩, hexists, hat⟩
  · rintro ⟨m, hspelled, hexists, hat⟩
    exact .intro (numbers_iff.mpr ⟨m, rfl, hexists, hat⟩) (hspelled.imp fun _ _ h => h.1)

/-- A timestamp of whole milliseconds below one second is what is left of it by writing. -/
theorem truncated_eq_self {t : Timestamp} {m : Moment} (h : t.IsAt m) (hexists : m.Exists) :
    t.truncated = t := by
  have hmillisecond := hexists.millisecond
  have hnanosecond := h.nanosecond
  have hsame : t.millisecond * 1000000 = t.nanosecond := by
    rw [Timestamp.millisecond, hnanosecond]
    omega
  cases t
  simpa [truncated] using hsame

/-- The sign of a negative year is refused. -/
theorem read_text_negative {t : Timestamp} (h : t.year < 0) :
    read t.text.toList = .error (.notInteger (toString t.year)) := by
  have hfield : readField (toString t.year).toList = .error (.notInteger (toString t.year)) := by
    have hnone : readNat? word32 (toString t.year).toList = none := by
      rw [toList_toString_int, if_neg (Int.not_le.mpr h), Option.eq_none_iff_forall_ne_some]
      intro n hread
      exact (readNat?_eq_some_iff.mp hread).1.ne_minus rfl
    rw [readField, hnone, String.ofList_toList]
  have hcount : ((toString t.year).toList :: t.laterNumbers.map toDigits).length = 7 := rfl
  unfold read
  rw [fields_text]
  dsimp only
  rw [if_pos hcount, List.mapM_cons, hfield]
  rfl

/-- Date and time of day to the second. -/
def toSecond (t : Timestamp) : Int × Nat × Nat × Nat × Nat × Nat :=
  (t.year, t.month, t.day, t.hour, t.minute, t.second)

/-- A text is read exactly if it spells a moment that exists, and then as that moment. A timestamp
from the year zero on is written so that it is read again, without what is less than a millisecond
and with the fraction of a leap second taken within that second; one of a negative year is written
so that it is not read. So what has been read is written and read again as it was. -/
theorem texts_spell_moments :
    (∀ text, (∃ t, read text = .ok t) ↔ ∃ m : Moment, m.Spelled text ∧ m.Exists) ∧
    (∀ text t m, read text = .ok t → m.Spelled text → t.IsAt m) ∧
    (∀ t : Timestamp, 0 ≤ t.year → ∃ u, read t.text.toList = .ok u ∧ u.toSecond = t.toSecond ∧
      u.nanosecond + t.nanosecond % 1000000 = t.nanosecond % 1000000000) ∧
    (∀ t : Timestamp, t.year < 0 →
      read t.text.toList = .error (.notInteger (toString t.year))) ∧
    ∀ text t, read text = .ok t → read t.text.toList = .ok t := by
  refine ⟨fun text => ⟨?_, ?_⟩, fun text t m hread hspelled => ?_, fun t hyear => ?_,
    fun t hyear => read_text_negative hyear, fun text t hread => ?_⟩
  · rintro ⟨t, hread⟩
    obtain ⟨m, hspelled, hexists, -⟩ := read_eq_ok_iff_moment.mp hread
    exact ⟨m, hspelled, hexists⟩
  · rintro ⟨m, hspelled, hexists⟩
    obtain ⟨t, hat⟩ := exists_isAt hexists
    exact ⟨t, read_eq_ok_iff_moment.mpr ⟨m, hspelled, hexists, hat⟩⟩
  · obtain ⟨m', hspelled', -, hat⟩ := read_eq_ok_iff_moment.mp hread
    rwa [hspelled.unique hspelled']
  · refine ⟨t.truncated, read_text hyear, rfl, ?_⟩
    change t.nanosecond / 1000000 % 1000 * 1000000 + t.nanosecond % 1000000 = _
    omega
  · obtain ⟨m, -, hexists, hat⟩ := read_eq_ok_iff_moment.mp hread
    have hyear : 0 ≤ t.year := by
      rw [hat.year]
      exact Int.natCast_nonneg _
    rw [read_text hyear, truncated_eq_self hat hexists]

end Timestamp

end ChartBoard
