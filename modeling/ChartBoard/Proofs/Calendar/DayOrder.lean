import ChartBoard.Proofs.Calendar.TimestampText

/-!
The numbers of days in order of their dates. A month begins on the day after the one before it has
ended, and so does a year, leap years and the ends of centuries included
(`Calendar.daysBeforeMonth_succ`, `Calendar.daysBeforeYear_succ`). So the later of two dates, by the
year first, then the month and then the day, has the greater number (`Calendar.dayNumber_lt`).
-/

namespace ChartBoard.Calendar

def daysInYear (year : Int) : Nat := if isLeapYear year then 366 else 365

theorem daysBeforeMonth_succ (year : Int) {month : Nat} (h : 1 ≤ month) :
    daysBeforeMonth year (month + 1) = daysBeforeMonth year month + daysInMonth year month := by
  obtain ⟨before, rfl⟩ : ∃ before, month = before + 1 := ⟨month - 1, by omega⟩
  rw [daysBeforeMonth, daysBeforeMonth, Nat.add_sub_cancel, Nat.add_sub_cancel, List.range_succ,
    List.map_append, List.foldl_append]
  rfl

theorem daysBeforeMonth_mono (year : Int) {month month' : Nat} (hfirst : 1 ≤ month)
    (h : month ≤ month') : daysBeforeMonth year month ≤ daysBeforeMonth year month' := by
  induction h with
  | refl => exact Nat.le_refl _
  | step hle ih =>
      rw [Nat.succ_eq_add_one, daysBeforeMonth_succ year (Nat.le_trans hfirst hle)]
      exact Nat.le_add_right_of_le ih

/-- The twelve months are the year. -/
theorem daysBeforeMonth_thirteen (year : Int) : daysBeforeMonth year 13 = daysInYear year := by
  have hsum : daysBeforeMonth year 13 = 31 + daysInMonth year 2 + 306 := by
    change 0 + 31 + daysInMonth year 2 + 31 + 30 + 31 + 30 + 31 + 31 + 30 + 31 + 30 + 31 = _
    omega
  rw [hsum, daysInMonth, daysInYear]
  split <;> rfl

/-- Every fourth year has one day more, but of the years that end a century only every fourth. -/
theorem daysBeforeYear_succ (year : Int) :
    daysBeforeYear (year + 1) = daysBeforeYear year + daysInYear year := by
  have hleap : isLeapYear year = true ↔ year % 4 = 0 ∧ (year % 100 ≠ 0 ∨ year % 400 = 0) := by
    simp [isLeapYear]
  unfold daysBeforeYear daysInYear
  dsimp only
  split
  · have hyear := hleap.mp ‹_›
    omega
  · have hyear := mt hleap.mpr ‹_›
    omega

theorem daysBeforeYear_mono {year year' : Int} (h : year ≤ year') :
    daysBeforeYear year ≤ daysBeforeYear year' := by
  unfold daysBeforeYear
  dsimp only
  omega

section Dates

variable {year year' : Int} {month month' day day' : Nat}

theorem one_le_month_of_isDate (h : isDate year month day = true) : 1 ≤ month := by
  cases month with
  | zero =>
      simp only [isDate, daysInMonth, Bool.and_eq_true, decide_eq_true_eq] at h
      omega
  | succ before => exact Nat.succ_le_succ (Nat.zero_le before)

/-- The day numbers of a month lie before the next month. -/
theorem dayNumber_lt_month (h : isDate year month day = true) (hlater : month < month') :
    dayNumber year month day < dayNumber year month' 1 := by
  have hfirst := one_le_month_of_isDate h
  have hends := daysBeforeMonth_mono year (Nat.le_succ_of_le hfirst) (Nat.succ_le_of_lt hlater)
  rw [Nat.succ_eq_add_one, daysBeforeMonth_succ year hfirst] at hends
  simp only [isDate, Bool.and_eq_true, decide_eq_true_eq] at h
  unfold dayNumber
  omega

/-- The day numbers of a year lie before the next year. -/
theorem dayNumber_lt_year (h : isDate year month day = true) (hlater : year < year') :
    dayNumber year month day < dayNumber year' 1 1 := by
  have hmonth : dayNumber year month day < dayNumber year 13 1 :=
    dayNumber_lt_month h (Nat.lt_succ_of_le (month_le_of_isDate h))
  have hyear : daysBeforeYear (year + 1) ≤ daysBeforeYear year' := daysBeforeYear_mono hlater
  have hfirst : daysBeforeMonth year' 1 = 0 := rfl
  rw [daysBeforeYear_succ] at hyear
  unfold dayNumber at hmonth ⊢
  rw [daysBeforeMonth_thirteen] at hmonth
  omega

theorem dayNumber_first_le (h : isDate year month day = true) :
    dayNumber year 1 1 ≤ dayNumber year month 1 ∧
    dayNumber year month 1 ≤ dayNumber year month day := by
  have hmonths := daysBeforeMonth_mono year (Nat.le_refl 1) (one_le_month_of_isDate h)
  simp only [isDate, Bool.and_eq_true, decide_eq_true_eq] at h
  unfold dayNumber
  omega

/-- The later date has the greater number. -/
theorem dayNumber_lt (h : isDate year month day = true) (h' : isDate year' month' day' = true)
    (hlater : year < year' ∨ year = year' ∧ (month < month' ∨ month = month' ∧ day < day')) :
    dayNumber year month day < dayNumber year' month' day' := by
  obtain ⟨hmonths, hdays⟩ := dayNumber_first_le h'
  rcases hlater with hyear | ⟨rfl, hmonth | ⟨rfl, hday⟩⟩
  · exact Int.lt_of_lt_of_le (dayNumber_lt_year h hyear) (Int.le_trans hmonths hdays)
  · exact Int.lt_of_lt_of_le (dayNumber_lt_month h hmonth) hdays
  · unfold dayNumber
    omega

end Dates

end ChartBoard.Calendar
