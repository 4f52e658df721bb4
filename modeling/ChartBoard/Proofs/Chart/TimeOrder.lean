import ChartBoard.Proofs.Calendar.DayOrder
import ChartBoard.Proofs.Calendar.Moments
import ChartBoard.Proofs.Chart.TimeCharts
import ChartBoard.Proofs.Number.Order

/-!
The order of the points of a chart over time. A timestamp's milliseconds grow with its fields, the
year first and the millisecond last, on a clock at universal time
(`Timestamp.IsAt.epochMilliseconds_lt_iff`). Wall clocks that are never set move all of them by the
same offset, and with it they still have fewer than 53 bits, so the numbers shown are in the same
order. Two values at two timestamps are so drawn in the order in which the fields read, and become
one point only where all fields are the same (`Timestamp.times_ordered_as_fields`).
-/

namespace ChartBoard

theorem Moment.numbers_injective {m m' : Moment} (h : m.numbers = m'.numbers) : m = m' := by
  cases m
  cases m'
  simpa [numbers] using h

/-- The parts of the numbers of two moments, the first that differs first. -/
theorem Moment.numbers_lt_iff {m m' : Moment} : m.numbers < m'.numbers ↔
    m.year < m'.year ∨ m.year = m'.year ∧ (m.month < m'.month ∨ m.month = m'.month ∧
      (m.day < m'.day ∨ m.day = m'.day ∧ (m.hour < m'.hour ∨ m.hour = m'.hour ∧
        (m.minute < m'.minute ∨ m.minute = m'.minute ∧ (m.second < m'.second ∨
          m.second = m'.second ∧ m.millisecond < m'.millisecond))))) := by
  simp only [numbers, List.cons_lt_cons_iff, List.lt_irrefl, and_false, or_false]

namespace Timestamp

/-- The milliseconds of a moment: whole days and the time of day. -/
theorem IsAt.epochMilliseconds_eq {t : Timestamp} {m : Moment} (h : t.IsAt m) :
    t.epochMilliseconds = Calendar.dayNumber m.year m.month m.day * 86400000 +
      (((m.hour * 60 + m.minute) * 60 + m.second) * 1000 + m.millisecond : Nat) := by
  have hfraction : m.millisecond * 1000000 / 1000000 = m.millisecond :=
    Nat.mul_div_cancel _ (by decide)
  unfold epochMilliseconds
  rw [h.year, h.month, h.day, h.hour, h.minute, h.second, h.nanosecond, hfraction]
  dsimp only
  omega

section Order

variable {t t' : Timestamp} {m m' : Moment} (hm : m.Exists) (hm' : m'.Exists) (h : t.IsAt m)
  (h' : t'.IsAt m')

include hm hm' h h'

/-- The later of two dates lies whole days ahead, which no time of day makes up for; on one day the
time of day decides. -/
theorem IsAt.epochMilliseconds_lt (hless : m.numbers < m'.numbers) :
    t.epochMilliseconds < t'.epochMilliseconds := by
  obtain ⟨hdate, htime, hmillisecond⟩ := m.exists_iff.mp hm
  obtain ⟨hdate', -, -⟩ := m'.exists_iff.mp hm'
  simp only [Calendar.isTime, Bool.and_eq_true, decide_eq_true_eq] at htime
  rw [h.epochMilliseconds_eq, h'.epochMilliseconds_eq]
  have hfields := Moment.numbers_lt_iff.mp hless
  by_cases hsame : m.year = m'.year ∧ m.month = m'.month ∧ m.day = m'.day
  · obtain ⟨hyear, hmonth, hday⟩ := hsame
    rw [hyear, hmonth, hday]
    omega
  · have hdays : Calendar.dayNumber m.year m.month m.day <
        Calendar.dayNumber m'.year m'.month m'.day := Calendar.dayNumber_lt hdate hdate' (by omega)
    omega

theorem IsAt.epochMilliseconds_eq_iff :
    t.epochMilliseconds = t'.epochMilliseconds ↔ m = m' := by
  constructor
  · intro hequal
    rcases Std.lt_trichotomy m.numbers m'.numbers with hless | hsame | hmore
    · exact absurd hequal (Int.ne_of_lt (h.epochMilliseconds_lt hm hm' h' hless))
    · exact Moment.numbers_injective hsame
    · exact absurd hequal.symm (Int.ne_of_lt (h'.epochMilliseconds_lt hm' hm h hmore))
  · rintro rfl
    rw [h.epochMilliseconds_eq, h'.epochMilliseconds_eq]

theorem IsAt.epochMilliseconds_lt_iff :
    t.epochMilliseconds < t'.epochMilliseconds ↔ m.numbers < m'.numbers := by
  refine ⟨fun hless => ?_, h.epochMilliseconds_lt hm hm' h'⟩
  rcases Std.lt_trichotomy m.numbers m'.numbers with hfields | hsame | hmore
  · exact hfields
  · have hequal := (h.epochMilliseconds_eq_iff hm hm' h').mpr (Moment.numbers_injective hsame)
    omega
  · have hmore := h'.epochMilliseconds_lt hm' hm h hmore
    omega

end Order

end Timestamp

namespace Binary64

section Whole

variable {m n : Int} (hm : m.natAbs < 2 ^ 53) (hn : n.natAbs < 2 ^ 53)

include hm hn

theorem ofInt_less_iff : (ofInt m).Less (ofInt n) ↔ m < n := by
  constructor
  · rintro ⟨x, y, hx, hy, hless⟩
    rw [inUnits?_ofInt hm, Option.some.injEq] at hx
    rw [inUnits?_ofInt hn, Option.some.injEq] at hy
    rw [← hx, ← hy] at hless
    exact Int.lt_of_mul_lt_mul_right hless (Int.natCast_nonneg _)
  · exact less_ofInt hm hn

theorem ofInt_eq_iff : ofInt m = ofInt n ↔ m = n := by
  refine ⟨fun hequal => ?_, fun hequal => by rw [hequal]⟩
  have hunits : m * unitsPerOne = n * unitsPerOne :=
    Option.some.inj (by rw [← inUnits?_ofInt hm, hequal, inUnits?_ofInt hn])
  exact Int.eq_of_mul_eq_mul_right (Int.natCast_pos.mpr unitsPerOne_pos).ne' hunits

end Whole

end Binary64

namespace TimeTrace

/-- Two values in an empty trace: the earlier one first, and one value for one time. -/
theorem values_two_inserts (v w : TimedValue) :
    (insert w (insert v { values := [], maxAge := 0 })).values =
      if v.time < w.time then [v, w] else if v.time = w.time then [w] else [w, v] := by
  have hall (v : TimedValue) (values : List TimedValue) :
      insert v { values := values, maxAge := 0 } = { values := place v values, maxAge := 0 } := by
    unfold insert staleCount
    dsimp only
    split <;> rfl
  rw [hall, hall]
  rcases Int.lt_trichotomy v.time w.time with hless | hequal | hmore
  · simp [place, earlier, notEarlier, hasTime, hless]
  · simp [place, earlier, notEarlier, hasTime, hequal]
  · simp [place, earlier, notEarlier, hasTime, Int.lt_asymm hmore, Int.ne_of_gt hmore]

end TimeTrace

namespace Chart

/-- Two values written to an empty trace that keeps values of any age. -/
theorem drawn?_two_timed {chart : Chart} (hkind : chart.kind = .time) {index : Nat}
    (htrace : chart.traces[index]? = some { values := [], maxAge := 0 }) (time time' : Int)
    (y y' : Binary64) :
    (chart.afterCalls [.addTimed index time y, .addTimed index time' y']).drawn? index =
      some (.points
        (if time < time' then [⟨.ofInt time, y⟩, ⟨.ofInt time', y'⟩]
        else if time = time' then [⟨.ofInt time', y'⟩]
        else [⟨.ofInt time', y'⟩, ⟨.ofInt time, y⟩])) := by
  have hcalls : ∀ call ∈ [ChartCall.addTimed index time y, .addTimed index time' y'],
      call ≠ .init := by simp
  have hrun := drawn?_of_trace (getElem?_traces_afterCalls hkind htrace hcalls)
  have hsteps : [ChartCall.addTimed index time y, .addTimed index time' y'].filterMap
      (ChartCall.traceStep? index) = [.write ⟨time, y⟩, .write ⟨time', y'⟩] := by
    simp [ChartCall.traceStep?]
  rw [hrun, hsteps, TimeTrace.data]
  change some (PlotData.points (List.map _ (TimeTrace.values
    (TimeTrace.insert _ (TimeTrace.insert _ _))))) = _
  rw [TimeTrace.values_two_inserts]
  dsimp only
  split
  · rfl
  · split <;> rfl

end Chart

namespace Timestamp

/-- Two texts that are read as timestamps stand for moments. On a host whose wall clocks are never
set, at universal time or ahead of it, the instants of these are in the order of their fields, of
the year first and of the millisecond last, and the same only if all fields are. They lie strictly
between minus and plus 2 to the power of 53, so as numbers shown they are in the same order and as
different. Values at both, written to an empty trace that keeps values of any age, are drawn in the
order of the fields, as two points exactly if any field differs. -/
theorem times_ordered_as_fields {reading : Clock.Reading} {offset : Offset}
    (hzone : reading.zone = .fixed offset) {text text' : List Char} {t t' : Timestamp}
    (h : read text = .ok t) (h' : read text' = .ok t') :
    let instant := reading.instant
    ∃ m m' : Moment, m.Spelled text ∧ m'.Spelled text' ∧ t.IsAt m ∧ t'.IsAt m' ∧
      (instant t < instant t' ↔ m.numbers < m'.numbers) ∧ (instant t = instant t' ↔ m = m') ∧
      (-2 ^ 53 < instant t ∧ instant t < 2 ^ 53) ∧ (-2 ^ 53 < instant t' ∧ instant t' < 2 ^ 53) ∧
      ((Binary64.ofInt (instant t)).Less (.ofInt (instant t')) ↔ m.numbers < m'.numbers) ∧
      (Binary64.ofInt (instant t) = .ofInt (instant t') ↔ m = m') ∧
      ∀ (chart : Chart) (index : Nat) (y y' : Binary64), chart.kind = .time →
        chart.traces[index]? = some { values := [], maxAge := 0 } →
        (chart.afterCalls [.addTimed index (instant t) y,
            .addTimed index (instant t') y']).drawn? index =
          some (.points
            (if m.numbers < m'.numbers then
              [⟨.ofInt (instant t), y⟩, ⟨.ofInt (instant t'), y'⟩]
            else if m = m' then [⟨.ofInt (instant t'), y'⟩]
            else [⟨.ofInt (instant t'), y'⟩, ⟨.ofInt (instant t), y⟩])) := by
  intro instant
  obtain ⟨m, hspelled, hm, hat⟩ := read_eq_ok_iff_moment.mp h
  obtain ⟨m', hspelled', hm', hat'⟩ := read_eq_ok_iff_moment.mp h'
  have hshift (t : Timestamp) : instant t = t.epochMilliseconds - 1000 * offset.seconds :=
    reading.instant_fixed hzone t
  have hless : instant t < instant t' ↔ m.numbers < m'.numbers := by
    rw [← hat.epochMilliseconds_lt_iff hm hm' hat', hshift, hshift]
    omega
  have hequal : instant t = instant t' ↔ m = m' := by
    rw [← hat.epochMilliseconds_eq_iff hm hm' hat', hshift, hshift]
    omega
  have hbits : (instant t).natAbs < 2 ^ 53 := reading.natAbs_instant_lt t
  have hbits' : (instant t').natAbs < 2 ^ 53 := reading.natAbs_instant_lt t'
  refine ⟨m, m', hspelled, hspelled', hat, hat', hless, hequal, by omega, by omega,
    (Binary64.ofInt_less_iff hbits hbits').trans hless,
    (Binary64.ofInt_eq_iff hbits hbits').trans hequal, fun chart index y y' hkind htrace => ?_⟩
  rw [Chart.drawn?_two_timed hkind htrace]
  simp only [hless, hequal]

/-- The last millisecond of a leap day, and the first of the month after it, at universal time. -/
theorem times_ordered_as_fields_leap_day :
    let reading := Clock.Reading.universal 0
    let last : Timestamp := ⟨2012, 2, 29, 23, 59, 59, 999000000, rfl, rfl⟩
    let next : Timestamp := ⟨2012, 3, 1, 0, 0, 0, 0, rfl, rfl⟩
    let chart := (Chart.create .time).afterCalls [.setAttribute "max_age_seconds" "0", .addPlot]
    reading.zone = .fixed .zero ∧ read "2012;3;1;0;0;0;0".toList = .ok next ∧
      read " 2012 ;02;29;23;59;59;999".toList = .ok last ∧ chart.kind = .time ∧
      chart.traces[0]? = some { values := [], maxAge := 0 } ∧
      (chart.afterCalls [.addTimed 0 (reading.instant next) .zero,
          .addTimed 0 (reading.instant last) (.ofNat 1)]).drawn? 0 =
        some (.points [⟨.ofInt last.epochMilliseconds, .ofNat 1⟩,
          ⟨.ofInt next.epochMilliseconds, .zero⟩]) := by
  intro reading last next chart
  have hzone : reading.zone = .fixed .zero := rfl
  have hnext : read "2012;3;1;0;0;0;0".toList = .ok next := by decide +kernel
  have hlast : read " 2012 ;02;29;23;59;59;999".toList = .ok last := by decide +kernel
  have hkind : chart.kind = .time := by decide +kernel
  have htrace : chart.traces[0]? = some { values := [], maxAge := 0 } := by decide +kernel
  refine ⟨hzone, hnext, hlast, hkind, htrace, ?_⟩
  obtain ⟨m, m', -, -, hat, hat', -, -, -, -, -, -, hdrawn⟩ :=
    times_ordered_as_fields hzone hnext hlast
  rw [hdrawn chart 0 .zero (.ofNat 1) hkind htrace, Clock.Reading.instant_universal,
    Clock.Reading.instant_universal]
  have hyear : m.year = 2012 := Int.ofNat.inj hat.year.symm
  have hyear' : m'.year = 2012 := Int.ofNat.inj hat'.year.symm
  have hmonth : m.month = 3 := hat.month.symm
  have hmonth' : m'.month = 2 := hat'.month.symm
  have hnot : ¬m.numbers < m'.numbers := by
    rw [Moment.numbers_lt_iff]
    omega
  have hother : m ≠ m' := fun hsame => by rw [hsame] at hmonth; omega
  rw [if_neg hnot, if_neg hother]

end Timestamp

end ChartBoard
