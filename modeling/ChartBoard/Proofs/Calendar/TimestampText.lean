import ChartBoard.Calendar.Timestamp
import ChartBoard.Proofs.Text.Digits

/-!
Timestamps and their texts. A text carries whole milliseconds below one second, so what is
read back is the timestamp cut to these (`Timestamp.truncated`). Years before zero are
written with a sign, which no field may have.
-/

namespace ChartBoard

open Text

namespace Calendar

theorem daysInMonth_eq_zero {month : Nat} (h : 12 < month) (year : Int) :
    daysInMonth year month = 0 := by
  unfold daysInMonth
  split <;> omega

theorem daysInMonth_le (year : Int) (month : Nat) : daysInMonth year month ≤ 31 := by
  unfold daysInMonth
  split
  · split <;> omega
  all_goals omega

theorem month_le_of_isDate {year : Int} {month day : Nat} (h : isDate year month day = true) :
    month ≤ 12 := by
  by_cases hmonth : 12 < month
  · simp only [isDate, Bool.and_eq_true, decide_eq_true_eq, daysInMonth_eq_zero hmonth] at h
    omega
  · omega

theorem year_le_of_isDate {year : Int} {month day : Nat} (h : isDate year month day = true) :
    year ≤ 262142 := by
  simp only [isDate, Bool.and_eq_true, decide_eq_true_eq] at h
  exact h.1.1.2

end Calendar

namespace Timestamp

variable (t : Timestamp)

theorem millisecond_lt : t.millisecond < 1000 := Nat.mod_lt _ (by decide)

/-- The timestamp without what is less than a millisecond, and with the fraction of a leap
second taken within that second. -/
def truncated : Timestamp where
  year := t.year
  month := t.month
  day := t.day
  hour := t.hour
  minute := t.minute
  second := t.second
  nanosecond := t.millisecond * 1000000
  isDate := t.isDate
  isTime := by
    have htime := t.isTime
    have hmillisecond := t.millisecond_lt
    simp only [Calendar.isTime, Bool.and_eq_true, decide_eq_true_eq] at htime ⊢
    exact ⟨htime.1, by omega⟩

/-- The fields behind the year, in the order in which they are written. -/
def laterNumbers : List Nat := [t.month, t.day, t.hour, t.minute, t.second, t.millisecond]

theorem toList_text : t.text.toList =
    [separator].intercalate ((toString t.year).toList :: t.laterNumbers.map toDigits) := by
  rw [text, String.toList_intercalate]
  simp only [List.map_cons, List.map_nil, toList_toString, laterNumbers]
  rfl

theorem lt_word32_of_mem_laterNumbers {n : Nat} (h : n ∈ t.laterNumbers) : n < word32 := by
  have hmonth := Calendar.month_le_of_isDate t.isDate
  have hlength := Calendar.daysInMonth_le t.year t.month
  have hdate := t.isDate
  have htime := t.isTime
  have hmillisecond := t.millisecond_lt
  simp only [Calendar.isDate, Calendar.isTime, Bool.and_eq_true, decide_eq_true_eq] at hdate htime
  simp only [laterNumbers, List.mem_cons, List.not_mem_nil, or_false] at h
  unfold word32
  omega

theorem readField_toDigits {n : Nat} (h : n < word32) : readField (toDigits n) = .ok n := by
  rw [readField, readNat?_toDigits h]

theorem isLeapPlace_of_millisecond {millisecond : Nat} (h : millisecond < 1000) (second : Nat) :
    Calendar.isLeapPlace second (millisecond * 1000000) = true := by
  rw [Calendar.isLeapPlace, Bool.or_eq_true, decide_eq_true_eq]
  exact .inl (by omega)

theorem ofFields?_truncated :
    ofFields? t.year t.month t.day t.hour t.minute t.second (t.millisecond * 1000000) =
      some t.truncated := by
  have htime : Calendar.isTime t.hour t.minute t.second (t.millisecond * 1000000) = true :=
    t.truncated.isTime
  have hplace := isLeapPlace_of_millisecond t.millisecond_lt t.second
  rw [ofFields?, dif_pos t.isDate, dif_pos htime, if_pos hplace]
  rfl

theorem allDigits_laterFields : ∀ field ∈ t.laterNumbers.map toDigits, AllDigits field := by
  intro field hfield
  obtain ⟨n, -, rfl⟩ := List.mem_map.mp hfield
  exact allDigits_toDigits n

/-- The seven fields come back out of the text. -/
theorem fields_text : (split (· == separator) t.text.toList).map trim =
    (toString t.year).toList :: t.laterNumbers.map toDigits := by
  have hyear := digitsAnd_toString_int t.year
  have hlater := t.allDigits_laterFields
  have hsplit : split (· == separator) t.text.toList =
      (toString t.year).toList :: t.laterNumbers.map toDigits := by
    rw [toList_text]
    refine split_intercalate (by decide) (List.cons_ne_nil _ _) (List.forall_mem_cons.mpr ⟨?_, ?_⟩)
    · exact hyear.free (beq_of_isDigit (by decide)) (by decide)
    · exact fun field hfield => (hlater field hfield).free (beq_of_isDigit (by decide))
  rw [hsplit]
  refine (List.map_congr_left (List.forall_mem_cons.mpr ⟨?_, ?_⟩)).trans (List.map_id _)
  · exact trim_free (hyear.free not_blank_of_isDigit (by decide))
  · exact fun field hfield => trim_free ((hlater field hfield).free not_blank_of_isDigit)

theorem digitsAnd_text : DigitsAnd ['-', separator] t.text.toList := by
  rw [toList_text]
  refine DigitsAnd.intercalate (by decide) (List.forall_mem_cons.mpr ⟨?_, fun field hfield => ?_⟩)
  · exact (digitsAnd_toString_int t.year).mono (by simp)
  · exact (t.allDigits_laterFields field hfield).digitsAnd _

theorem separator_mem_text : separator ∈ t.text.toList := by
  rw [toList_text, laterNumbers, List.map_cons, List.intercalate_cons_cons]
  simp

section FromZero

variable {t} {year : Nat} (hyear : t.year = year)

include hyear

theorem year_lt : year < 1 <<< 31 := by
  have hlast := Calendar.year_le_of_isDate t.isDate
  rw [Nat.one_shiftLeft]
  omega

theorem ofNumbers_truncated : ofNumbers (year :: t.laterNumbers) = .ok t.truncated := by
  have hmillisecond := t.millisecond_lt
  have hsmall : ¬1 <<< 31 ≤ year := Nat.not_le.mpr (year_lt hyear)
  have hbelow : ¬999 < t.millisecond := by omega
  unfold laterNumbers ofNumbers
  dsimp only
  rw [if_neg hsmall, if_neg hbelow, ← hyear, ofFields?_truncated]

omit hyear in
/-- A timestamp from the year zero on is read as it was written, cut to milliseconds. -/
theorem read_text (h : 0 ≤ t.year) : read t.text.toList = .ok t.truncated := by
  obtain ⟨year, hyear⟩ := Int.eq_ofNat_of_zero_le h
  have hfields : (split (· == separator) t.text.toList).map trim =
      (year :: t.laterNumbers).map toDigits := by
    rw [fields_text, hyear, List.map_cons, ← toList_toString]
    rfl
  have hnumbers : ∀ n ∈ year :: t.laterNumbers, readField (toDigits n) = .ok n := by
    refine List.forall_mem_cons.mpr ⟨readField_toDigits ?_, fun n hn =>
      readField_toDigits (t.lt_word32_of_mem_laterNumbers hn)⟩
    exact Nat.lt_trans (year_lt hyear) (by decide)
  have hcount : ((year :: t.laterNumbers).map toDigits).length = 7 := rfl
  unfold read
  rw [hfields]
  dsimp only
  rw [if_pos hcount, mapM_map_ok hnumbers]
  exact ofNumbers_truncated hyear

end FromZero

end Timestamp

end ChartBoard
