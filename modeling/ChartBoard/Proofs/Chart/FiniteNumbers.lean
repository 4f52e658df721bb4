import ChartBoard.Proofs.Chart.Calls
import ChartBoard.Proofs.Protocol.Grammar

/-!
The numbers in a chart. They come from attributes, from lines of values, from the clock, from
timestamps, and from counting bars, and all of them are finite: what is read is finite by its
grammar, and times and bars are whole numbers far below the threshold of the infinite ones. A chart
keeps them finite in whatever it does (`Chart.AllFinite`).
-/

namespace ChartBoard

namespace Binary64

theorem isFinite_zero : Binary64.zero.isFinite = true := rfl

theorem isFinite_ofInt {n : Int} (h : n.natAbs < overflow) : (ofInt n).isFinite = true := by
  rw [ofInt, isFinite_ofRatio _ Nat.one_pos, Nat.mul_one]
  exact h

theorem isFinite_ofNat {n : Nat} (h : n < overflow) : (ofNat n).isFinite = true :=
  isFinite_ofInt (by simpa using h)

end Binary64

theorem Calendar.daysBeforeMonth_le (year : Int) (month : Nat) :
    daysBeforeMonth year month ≤ 31 * (month - 1) := by
  have hsum (months : List Nat) (days : Nat) :
      (months.map fun before => daysInMonth year (before + 1)).foldl (· + ·) days ≤
        days + 31 * months.length := by
    induction months generalizing days with
    | nil => exact Nat.le_refl days
    | cons before months ih =>
        rw [List.map_cons, List.foldl_cons, List.length_cons]
        have hmonth := daysInMonth_le year (before + 1)
        have hrest := ih (days + daysInMonth year (before + 1))
        omega
  have hall := hsum (List.range (month - 1)) 0
  rwa [List.length_range, Nat.zero_add] at hall

namespace Timestamp

/-- The dates that are counted lie within 53 bits of milliseconds, with a day to spare. -/
theorem natAbs_epochMilliseconds_lt (t : Timestamp) :
    t.epochMilliseconds.natAbs + 86400000 < 2 ^ 53 := by
  have hmonth := Calendar.month_le_of_isDate t.isDate
  have hlength := Calendar.daysInMonth_le t.year t.month
  have hbefore := Calendar.daysBeforeMonth_le t.year t.month
  have hdate := t.isDate
  have htime := t.isTime
  simp only [Calendar.isDate, Calendar.isTime, Bool.and_eq_true, decide_eq_true_eq] at hdate htime
  unfold Calendar.firstYear Calendar.lastYear at hdate
  unfold epochMilliseconds Calendar.dayNumber Calendar.daysBeforeYear
  generalize Calendar.daysBeforeMonth t.year t.month = before at hbefore ⊢
  generalize Calendar.daysInMonth t.year t.month = length at hlength hdate
  dsimp only
  omega

end Timestamp

namespace Clock.Reading

variable (reading : Reading) (t : Timestamp)

/-- In no zone is a wall-clock time farther from the first of January 1970 than that. -/
theorem natAbs_instant_lt : (reading.instant t).natAbs < 2 ^ 53 := by
  have htime := t.natAbs_epochMilliseconds_lt
  have hoffset := (reading.offsetAt t).lessThanDay
  unfold instant
  omega

theorem isFinite_instant : (Binary64.ofInt (reading.instant t)).isFinite = true :=
  Binary64.isFinite_ofInt (Nat.lt_trans (reading.natAbs_instant_lt t) (by decide +kernel))

end Clock.Reading

namespace Command

theorem isFinite_of_readNumber {word : List Char} {x : Binary64} (h : readNumber word = .ok x) :
    x.isFinite = true := by
  unfold readNumber at h
  split at h
  · split at h
    · rename_i hfinite
      cases h
      simpa using (Bool.and_eq_true_iff.mp hfinite).2
    · cases h
  · cases h

theorem NumberText.isFinite {word : List Char} {x : Binary64} (h : NumberText word x) :
    x.isFinite = true := isFinite_of_readNumber (readNumber_eq_ok_iff.mpr h)

end Command

structure Attributes.AllFinite (a : Attributes) : Prop where
  minScale : a.minScale.isFinite = true
  maxScale : a.maxScale.isFinite = true

structure Axis.AllFinite (axis : Axis) : Prop where
  min : axis.min.isFinite = true
  max : axis.max.isFinite = true

structure Point.AllFinite (point : Point) : Prop where
  x : point.x.isFinite = true
  y : point.y.isFinite = true

theorem Point.allFinite {x y : Binary64} (hx : x.isFinite = true) (hy : y.isFinite = true) :
    (Point.mk x y).AllFinite := ⟨hx, hy⟩

def PlotData.AllFinite : PlotData → Prop
  | points ps => ∀ point ∈ ps, point.AllFinite
  | value x => x.isFinite = true

structure Picture.AllFinite (picture : Picture) : Prop where
  axes : ∀ axis ∈ picture.axes, axis.AllFinite
  plots : ∀ plot ∈ picture.plots, plot.data.AllFinite

/-- The values of a line; the time of a timestamp is no value. -/
def DataLine.AllFinite : DataLine → Prop
  | .sequential values => ∀ x ∈ values, x.isFinite = true
  | .points given => ∀ p ∈ given, p.x.isFinite = true ∧ p.y.isFinite = true
  | .timed _ _ y => y.isFinite = true

theorem Command.DataText.allFinite {line : List Char} {data : DataLine} (h : DataText line data) :
    data.AllFinite := by
  cases h with
  | sequential _ hvalues => exact Text.forall_mem_of_forall₂ hvalues fun _ _ hword => hword.isFinite
  | points _ _ hpoints =>
      refine Text.forall_mem_of_forall₂ hpoints fun _ _ hpoint => ?_
      obtain ⟨-, -, hx, hy⟩ := hpoint
      exact ⟨hx.isFinite, hy.isFinite⟩
  | timed _ _ _ _ hy => exact hy.isFinite

namespace Attributes

theorem isFinite_of_readNumber? {value : String} {x : Binary64} (h : readNumber? value = some x) :
    x.isFinite = true := by
  unfold readNumber? at h
  cases hread : Command.readNumber value.toList with
  | error fault =>
      rw [hread] at h
      cases h
  | ok y =>
      rw [hread] at h
      cases h
      exact Command.isFinite_of_readNumber hread

theorem AllFinite.put {item : Attribute} {value : String} {a after : Attributes} (h : a.AllFinite)
    (hput : a.put item value = .ok after) : after.AllFinite := by
  cases item
  case minScaleValue =>
    unfold Attributes.put at hput
    dsimp only at hput
    split at hput
    · rename_i x hx
      cases hput
      exact ⟨isFinite_of_readNumber? hx, h.maxScale⟩
    · cases hput
  case maxScaleValue =>
    unfold Attributes.put at hput
    dsimp only at hput
    split at hput
    · rename_i x hx
      cases hput
      exact ⟨h.minScale, isFinite_of_readNumber? hx⟩
    · cases hput
  all_goals
    unfold Attributes.put at hput
    dsimp only at hput
    try split at hput
    all_goals
      cases hput
      try exact ⟨h.minScale, h.maxScale⟩

theorem AllFinite.set {name value : String} {a after : Attributes} (h : a.AllFinite)
    (hset : a.set name value = .ok after) : after.AllFinite := by
  unfold Attributes.set at hset
  split at hset
  · cases hset
  · rename_i item _
    cases hput : a.put item value with
    | error form =>
        rw [hput] at hset
        cases hset
    | ok next =>
        rw [hput] at hset
        cases hset
        exact h.put hput

end Attributes

theorem Attributes.allFinite_default : ({} : Attributes).AllFinite := ⟨rfl, rfl⟩

theorem Axis.AllFinite.ofAttributes {a : Attributes} (h : a.AllFinite) :
    (Axis.ofAttributes a).AllFinite := ⟨h.minScale, h.maxScale⟩

namespace CursorTrace

def AllFinite (trace : CursorTrace) : Prop := ∀ point ∈ trace.points, point.AllFinite

theorem allFinite_empty : ({} : CursorTrace).AllFinite := fun _ hpoint => by cases hpoint

/-- A trace of bars that has counted no more than so many. -/
structure Counted (bars : Nat) (trace : CursorTrace) : Prop where
  cursor : trace.cursor ≤ bars
  finite : trace.AllFinite

theorem Counted.mono {bars more : Nat} {trace : CursorTrace} (h : trace.Counted bars)
    (hmore : bars ≤ more) : trace.Counted more := ⟨Nat.le_trans h.cursor hmore, h.finite⟩

theorem AllFinite.write {point : Point} {trace : CursorTrace} (h : trace.AllFinite)
    (hpoint : point.AllFinite) : (trace.write point).AllFinite := by
  intro q hq
  have hmem : q ∈ trace.points ∨ q = point := by
    unfold CursorTrace.write at hq
    dsimp only at hq
    split at hq
    · exact List.mem_or_eq_of_mem_set hq
    · simpa using hq
  rcases hmem with hold | rfl
  · exact h q hold
  · exact hpoint

end CursorTrace

namespace TimeTrace

def AllFinite (trace : TimeTrace) : Prop := ∀ v ∈ trace.values, v.point.AllFinite

theorem allFinite_point {time : Int} {y : Binary64} (htime : (Binary64.ofInt time).isFinite = true)
    (hy : y.isFinite = true) : (TimedValue.point ⟨time, y⟩).AllFinite := by
  unfold TimedValue.point
  exact Point.allFinite htime hy

theorem mem_place {v w : TimedValue} {values : List TimedValue} (h : w ∈ place v values) :
    w = v ∨ w ∈ values := by
  rcases List.mem_append.mp h with hearlier | hrest
  · exact .inr ((List.takeWhile_sublist _).subset hearlier)
  · rcases List.mem_cons.mp hrest with rfl | hlater
    · exact .inl rfl
    · have hnotEarlier : w ∈ notEarlier v.time values := by
        split at hlater
        · exact List.mem_of_mem_drop hlater
        · exact hlater
      exact .inr ((List.dropWhile_sublist _).subset hnotEarlier)

theorem AllFinite.insert {v : TimedValue} {trace : TimeTrace} (h : trace.AllFinite)
    (hv : v.point.AllFinite) : (trace.insert v).AllFinite := by
  intro w hw
  rcases mem_place (List.mem_of_mem_drop hw) with rfl | hold
  · exact hv
  · exact h w hold

end TimeTrace

/-- What holds of the contents of all plots after one of them has been updated. -/
theorem Styled.forall_update {α : Type} (P Q : α → Prop) {index : Nat} {f : α → α}
    {plots : List (Styled α)} (h : ∀ p ∈ plots, P p.content)
    (hkeeps : ∀ content, P content → Q content) (hf : ∀ content, P content → Q (f content)) :
    ∀ p ∈ Styled.update index f plots, Q p.content := by
  intro p hp
  obtain ⟨place, hplace⟩ := List.mem_iff_getElem?.mp hp
  rw [Styled.update, List.getElem?_modify] at hplace
  cases hold : plots[place]? with
  | none =>
      rw [hold] at hplace
      cases hplace
  | some old =>
      rw [hold] at hplace
      obtain rfl := Option.some.inj hplace
      have hcontent := h old (List.mem_of_getElem? hold)
      dsimp only
      split
      · exact hf _ hcontent
      · exact hkeeps _ hcontent

namespace Series

/-- All numbers are finite, and no more than so many bars have been counted. -/
def AllFinite (bars : Nat) : Series → Prop
  | time plots => ∀ p ∈ plots, p.content.AllFinite
  | bar plots => plots.length ≤ 1 ∧ ∀ p ∈ plots, p.content.Counted bars
  | xy plots => ∀ p ∈ plots, p.content.AllFinite
  | dial plots => ∀ p ∈ plots, p.content.isFinite = true

theorem allFinite_empty (bars : Nat) (kind : ChartKind) : (empty kind).AllFinite bars := by
  cases kind <;> simp [empty, AllFinite]

theorem AllFinite.mono {bars more : Nat} {series : Series} (h : series.AllFinite bars)
    (hmore : bars ≤ more) : series.AllFinite more := by
  cases series with
  | time | xy | dial => exact h
  | bar plots => exact ⟨h.1, fun p hp => (h.2 p hp).mono hmore⟩

theorem AllFinite.add {bars : Nat} {series : Series} (h : series.AllFinite bars)
    (hroom : series.kind = .bar → series.count < 1) (style : PlotStyle) (maxAge : Nat) :
    (series.add style maxAge).AllFinite bars := by
  cases series with
  | time plots =>
      intro p hp v hv
      rcases List.mem_append.mp hp with hold | hnew
      · exact h p hold v hv
      · obtain rfl := List.mem_singleton.mp hnew
        cases hv
  | bar plots =>
      have hnone : plots = [] := by simpa [count, styles] using hroom rfl
      subst hnone
      refine ⟨Nat.le_refl 1, fun p hp => ?_⟩
      obtain rfl := List.mem_singleton.mp hp
      exact ⟨Nat.zero_le bars, CursorTrace.allFinite_empty⟩
  | xy plots =>
      intro p hp point hpoint
      rcases List.mem_append.mp hp with hold | hnew
      · exact h p hold point hpoint
      · obtain rfl := List.mem_singleton.mp hnew
        cases hpoint
  | dial plots =>
      intro p hp
      rcases List.mem_append.mp hp with hold | hnew
      · exact h p hold
      · obtain rfl := List.mem_singleton.mp hnew
        exact Binary64.isFinite_zero

section Update

variable {bars index : Nat}

theorem AllFinite.updateTime {plots : List (Styled TimeTrace)} {f : TimeTrace → TimeTrace}
    (h : (time plots).AllFinite bars) (hf : ∀ trace, trace.AllFinite → (f trace).AllFinite) :
    (time (Styled.update index f plots)).AllFinite bars :=
  Styled.forall_update TimeTrace.AllFinite TimeTrace.AllFinite h (fun _ hold => hold) hf

theorem AllFinite.updateBar {more : Nat} {plots : List (Styled CursorTrace)}
    {f : CursorTrace → CursorTrace} (h : (bar plots).AllFinite bars) (hmore : bars ≤ more)
    (hf : ∀ trace, trace.Counted bars → (f trace).Counted more) :
    (bar (Styled.update index f plots)).AllFinite more := by
  refine ⟨?_, ?_⟩
  · rw [Styled.update, List.length_modify]
    exact h.1
  · exact Styled.forall_update (CursorTrace.Counted bars) (CursorTrace.Counted more) h.2
      (fun _ hold => hold.mono hmore) hf

theorem AllFinite.updateXy {plots : List (Styled CursorTrace)} {f : CursorTrace → CursorTrace}
    (h : (xy plots).AllFinite bars) (hf : ∀ trace, trace.AllFinite → (f trace).AllFinite) :
    (xy (Styled.update index f plots)).AllFinite bars :=
  Styled.forall_update CursorTrace.AllFinite CursorTrace.AllFinite h (fun _ hold => hold) hf

theorem AllFinite.updateDial {plots : List (Styled Binary64)} {value : Binary64}
    (h : (dial plots).AllFinite bars) (hvalue : value.isFinite = true) :
    (dial (Styled.update index (fun _ => value) plots)).AllFinite bars :=
  Styled.forall_update (fun x : Binary64 => x.isFinite = true)
    (fun x : Binary64 => x.isFinite = true) h (fun _ hold => hold) fun _ _ => hvalue

end Update

theorem AllFinite.draw {bars : Nat} {series : Series} (h : series.AllFinite bars) :
    ∀ plot ∈ series.draw, plot.data.AllFinite := by
  intro plot hplot
  cases series with
  | time plots =>
      obtain ⟨p, hp, rfl⟩ := List.mem_map.mp hplot
      intro point hpoint
      obtain ⟨v, hv, rfl⟩ := List.mem_map.mp hpoint
      exact h p hp v hv
  | bar plots =>
      obtain ⟨p, hp, rfl⟩ := List.mem_map.mp hplot
      exact (h.2 p hp).finite
  | xy plots | dial plots =>
      obtain ⟨p, hp, rfl⟩ := List.mem_map.mp hplot
      exact h p hp

end Series

namespace Chart

/-- All numbers of a chart are finite, and it has counted no more than so many bars. -/
structure AllFinite (bars : Nat) (chart : Chart) : Prop where
  attributes : chart.attributes.AllFinite
  axes : ∀ axis ∈ chart.axes, axis.AllFinite
  series : chart.series.AllFinite bars

theorem AllFinite.picture {bars : Nat} {chart : Chart} (h : chart.AllFinite bars) :
    chart.picture.AllFinite := ⟨h.axes, h.series.draw⟩

theorem AllFinite.mono {bars more : Nat} {chart : Chart} (h : chart.AllFinite bars)
    (hmore : bars ≤ more) : chart.AllFinite more := ⟨h.attributes, h.axes, h.series.mono hmore⟩

theorem AllFinite.settled {bars : Nat} {chart : Chart} (h : chart.AllFinite bars) :
    chart.settled.AllFinite bars := ⟨h.attributes, h.axes, h.series⟩

theorem allFinite_blank (bars : Nat) (kind : ChartKind) {a : Attributes} (h : a.AllFinite) :
    (blank kind a).AllFinite bars where
  attributes := h
  axes axis haxis := by
    obtain rfl := List.mem_singleton.mp haxis
    exact .ofAttributes h
  series := Series.allFinite_empty bars kind

theorem AllFinite.setAttribute {bars : Nat} {name value : String} {before after : Chart}
    (h : before.AllFinite bars) (hset : before.setAttribute name value = .ok after) :
    after.AllFinite bars := by
  unfold Chart.setAttribute at hset
  cases hattributes : before.attributes.set name value with
  | error refusal =>
      rw [hattributes] at hset
      cases hset
  | ok attributes =>
      rw [hattributes] at hset
      cases hset
      exact ⟨h.attributes.set hattributes, h.axes, h.series⟩

theorem mem_axesForPlot {axis : Axis} {chart : Chart} (h : axis ∈ chart.axesForPlot) :
    axis = .ofAttributes chart.attributes ∨ axis ∈ chart.axes := by
  unfold axesForPlot at h
  dsimp only at h
  split at h
  · exact .inr h
  split at h
  · exact (List.mem_or_eq_of_mem_set h).symm
  · rcases List.mem_append.mp h with hold | hnew
    · exact .inr hold
    · exact .inl (List.mem_singleton.mp hnew)

theorem AllFinite.addPlot {bars : Nat} {before after : Chart} (h : before.AllFinite bars)
    (hadd : before.addPlot = .ok after) : after.AllFinite bars := by
  have hroom := addPlot_isOk_iff.mp ⟨after, hadd⟩
  obtain rfl := eq_of_addPlot hadd
  refine ⟨h.attributes, fun axis haxis => ?_, ?_⟩
  · rcases mem_axesForPlot haxis with rfl | hold
    · exact .ofAttributes h.attributes
    · exact h.axes axis hold
  · refine h.series.add (fun hkind => ?_) _ _
    exact hroom 1 (by rw [outline, kind, hkind]; rfl)

theorem AllFinite.record {bars more : Nat} {chart : Chart} (h : chart.AllFinite bars)
    {series : Series} (hseries : series.AllFinite more) (index : Nat) (edits : List Edit) :
    (chart.record index edits series).AllFinite more := ⟨h.attributes, h.axes, hseries⟩

/-- A step that looks for its plot first does what it does behind that. -/
theorem ok_of_checkPlot {index : Nat} {before after : Chart} {next : Except Refusal Chart}
    (h : (before.checkPlot index >>= fun _ => next) = .ok after) : next = .ok after := by
  rw [bind_checkPlot] at h
  split at h
  · exact h
  · cases h

section Steps

variable {bars index : Nat} {before after : Chart} (h : before.AllFinite bars)

include h

theorem AllFinite.insertTimed {plots : List (Styled TimeTrace)}
    (hseries : before.series = .time plots)
    {v : TimedValue} (hv : v.point.AllFinite) :
    (before.insertTimed index v plots).AllFinite bars := by
  have hplots : (Series.time plots).AllFinite bars := hseries ▸ h.series
  exact h.record (hplots.updateTime fun _ hold => hold.insert hv) index _

theorem AllFinite.addTimed {time : Int} {y : Binary64}
    (htime : (Binary64.ofInt time).isFinite = true)
    (hy : y.isFinite = true) (hstep : before.addTimed index time y = .ok after) :
    after.AllFinite bars := by
  unfold Chart.addTimed at hstep
  split at hstep
  · rename_i plots hseries
    have hnext : before.insertTimed index ⟨time, y⟩ plots = after :=
      Except.ok.inj (ok_of_checkPlot hstep)
    rw [← hnext]
    exact h.insertTimed hseries (TimeTrace.allFinite_point htime hy)
  · cases hstep

theorem AllFinite.addPoint {point : Point} (hpoint : point.AllFinite)
    (hstep : before.addPoint index point = .ok after) : after.AllFinite bars := by
  unfold Chart.addPoint at hstep
  split at hstep
  · rename_i plots hseries
    have hplots : (Series.xy plots).AllFinite bars := hseries ▸ h.series
    obtain rfl := Except.ok.inj (ok_of_checkPlot hstep)
    exact h.record (hplots.updateXy fun _ hold => hold.write hpoint) index _
  · cases hstep

/-- Writing a value to the next bar counts one bar more. -/
theorem AllFinite.addBar {plots : List (Styled CursorTrace)} (hseries : before.series = .bar plots)
    {y : Binary64} (hy : y.isFinite = true) (hbars : bars + 1 < Binary64.overflow) :
    let bar := nextBar index y plots
    (before.record index (writeEdits index bar plots)
      (.bar (Styled.update index (CursorTrace.write bar) plots))).AllFinite (bars + 1) := by
  intro bar
  have hplots : (Series.bar plots).AllFinite bars := hseries ▸ h.series
  have hbar : bar.AllFinite := by
    dsimp only [bar]
    unfold nextBar
    split
    · rename_i plot hplot
      have hcursor := (hplots.2 plot (List.mem_of_getElem? hplot)).cursor
      exact Point.allFinite (Binary64.isFinite_ofNat (by omega)) hy
    · exact Point.allFinite (Binary64.isFinite_ofNat (by omega)) hy
  refine h.record (hplots.updateBar (Nat.le_succ bars) fun trace hold => ?_) index _
  exact ⟨Nat.succ_le_succ hold.cursor, hold.finite.write hbar⟩

/-- A value becomes one bar at most. -/
theorem AllFinite.addValue {now : Int} {y : Binary64} (hnow : (Binary64.ofInt now).isFinite = true)
    (hy : y.isFinite = true) (hbars : before.kind = .bar → bars + 1 < Binary64.overflow)
    (hstep : before.addValue now index y = .ok after) :
    after.AllFinite (if before.kind = .bar then bars + 1 else bars) := by
  unfold Chart.addValue at hstep
  split at hstep
  · cases hstep
  · rename_i plots hseries
    have hnext : before.insertTimed index ⟨now, y⟩ plots = after :=
      Except.ok.inj (ok_of_checkPlot hstep)
    rw [← hnext, if_neg (by rw [kind, hseries]; exact ChartKind.noConfusion)]
    exact h.insertTimed hseries (TimeTrace.allFinite_point hnow hy)
  · rename_i plots hseries
    have hkind : before.kind = .bar := by rw [kind, hseries]; rfl
    rw [← Except.ok.inj (ok_of_checkPlot hstep), if_pos hkind]
    exact h.addBar hseries hy (hbars hkind)
  · rename_i plots hseries
    have hplots : (Series.dial plots).AllFinite bars := hseries ▸ h.series
    rw [← Except.ok.inj (ok_of_checkPlot hstep),
      if_neg (by rw [kind, hseries]; exact ChartKind.noConfusion)]
    exact h.record (hplots.updateDial hy) index _

theorem AllFinite.clear (hstep : before.clear index = .ok after) : after.AllFinite bars := by
  have hseries := h.series
  have hnext := ok_of_checkPlot hstep
  cases hkind : before.series <;> rw [hkind] at hseries hnext <;> cases hnext <;>
    refine h.record ?_ index _
  · exact hseries.updateTime fun _ _ v hv => by cases hv
  · exact hseries.updateBar (Nat.le_refl bars) fun _ _ =>
      ⟨Nat.zero_le bars, CursorTrace.allFinite_empty⟩
  · exact hseries.updateXy fun _ _ => CursorTrace.allFinite_empty
  · exact hseries.updateDial Binary64.isFinite_zero

theorem AllFinite.replot (hstep : before.replot index = .ok after) : after.AllFinite bars := by
  have hseries := h.series
  have hnext := ok_of_checkPlot hstep
  cases hkind : before.series <;> rw [hkind] at hseries hnext <;> cases hnext
  · exact h
  · exact ⟨h.attributes, h.axes, hseries.updateBar (Nat.le_refl bars) fun _ hold =>
      ⟨Nat.zero_le bars, hold.finite⟩⟩
  · exact ⟨h.attributes, h.axes, hseries.updateXy fun _ hold => hold⟩
  · exact h

end Steps

/-- What each of some steps keeps, all of them keep, as far as they are taken. -/
theorem doEach_keeps {α : Type} {P : Chart → Prop} {step : α → Chart → Except Refusal Chart}
    {xs : List α} (hstep : ∀ x ∈ xs, ∀ {before after : Chart}, P before →
      step x before = .ok after → P after) {chart : Chart} (h : P chart) :
    P (doEach step xs chart).chart := by
  induction xs generalizing chart with
  | nil => exact h
  | cons x xs ih =>
      unfold doEach
      split
      · rename_i next hnext
        exact ih (fun y hy => hstep y (List.mem_cons_of_mem x hy))
          (hstep x List.mem_cons_self h hnext)
      · exact h

theorem attempt_keeps {P : Chart → Prop} {step : Chart → Except Refusal Chart} {chart : Chart}
    (hstep : ∀ {after : Chart}, step chart = .ok after → P after) (h : P chart) :
    P (attempt step chart).chart := by
  unfold attempt
  split
  · rename_i next hnext
    exact hstep hnext
  · exact h

section Lines

variable {bars : Nat} {chart : Chart} {clock : Clock}

theorem AllFinite.plotCount_le_one (h : chart.AllFinite bars) (hkind : chart.kind = .bar) :
    chart.plotCount ≤ 1 := by
  have hseries := h.series
  unfold kind at hkind
  unfold plotCount
  cases hplots : chart.series with
  | bar plots =>
      rw [hplots] at hseries
      simpa [Series.count, Series.styles] using hseries.1
  | time | xy | dial =>
      rw [hplots] at hkind
      cases hkind

theorem AllFinite.feedSequential (h : chart.AllFinite bars)
    (hclock : ∀ i, (Binary64.ofInt (clock i).now).isFinite = true) {values : List Binary64}
    (hvalues : ∀ y ∈ values, y.isFinite = true) (hbars : bars + 1 < Binary64.overflow) :
    (chart.feed clock (.sequential values)).chart.AllFinite (bars + 1) := by
  unfold feed
  dsimp only
  split
  · exact h.mono (Nat.le_succ bars)
  rename_i hroom
  have hfinite : ∀ v ∈ values.zipIdx, v.1.isFinite = true := fun v hv =>
    hvalues v.1 (List.fst_mem_of_mem_zipIdx hv)
  by_cases hkind : chart.kind = .bar
  · -- there is one plot at most, and so there is one value
    have hone : chart.plotCount ≤ 1 := h.plotCount_le_one hkind
    match values with
    | [] => exact h.mono (Nat.le_succ bars)
    | [y] =>
        rw [List.zipIdx_cons, List.zipIdx_nil, doEach]
        split
        · rename_i after hstep
          have hafter := h.addValue (hclock 0) (hvalues y List.mem_cons_self) (fun _ => hbars) hstep
          rw [if_pos hkind] at hafter
          exact hafter
        · exact h.mono (Nat.le_succ bars)
    | _ :: _ :: _ =>
        simp only [List.length_cons] at hroom
        omega
  · refine AllFinite.mono ?_ (Nat.le_succ bars)
    refine (doEach_keeps (P := fun chart => chart.AllFinite bars ∧ chart.kind ≠ .bar) ?_
      ⟨h, hkind⟩).1
    rintro ⟨y, index⟩ hmem before after ⟨hbefore, hother⟩ hstep
    have hafter :=
      hbefore.addValue (hclock index) (hfinite _ hmem) (fun hbar => absurd hbar hother) hstep
    rw [if_neg hother] at hafter
    exact ⟨hafter, by rw [kind_of_ruled (ruled_addValue _ _ _) hstep]; exact hother⟩

/-- A line of values makes one bar at most. -/
theorem AllFinite.feed (h : chart.AllFinite bars)
    (hclock : ∀ i, (Binary64.ofInt (clock i).now).isFinite = true) {data : DataLine}
    (hdata : data.AllFinite) (hbars : bars + 1 < Binary64.overflow) :
    (chart.feed clock data).chart.AllFinite (bars + 1) := by
  cases data with
  | sequential values => exact h.feedSequential hclock hdata hbars
  | points given =>
      refine AllFinite.mono ?_ (Nat.le_succ bars)
      unfold Chart.feed
      dsimp only
      split
      · exact h
      · refine doEach_keeps (P := AllFinite bars) (fun p hp before after hbefore hstep => ?_) h
        exact hbefore.addPoint (Point.allFinite (hdata p hp).1 (hdata p hp).2) hstep
  | timed index time y =>
      refine AllFinite.mono ?_ (Nat.le_succ bars)
      exact attempt_keeps (P := AllFinite bars)
        (fun hstep => h.addTimed ((clock 0).isFinite_instant time) hdata hstep) h

end Lines

end Chart

end ChartBoard
