import ChartBoard.Proofs.Chart.Following
import ChartBoard.Proofs.Number.Order
import Mathlib.Data.List.Perm.Basic

/-!
What a trace over time keeps of the values written to it. The values of a trace ascend in time, so
that those before a time and those from it on are filtered from the whole (`TimeTrace.earlier_eq`,
`TimeTrace.notEarlier_eq`), and a value that is placed takes the place of one at its own time
(`TimeTrace.mem_place_iff`). Dropping what is too old beside the newest value loses nothing that
could come back, for the newest value only gets newer. So a trace keeps the last value written at
each time that is not too old beside all that has been written (`TimeTrace.Keeps`).
-/

namespace ChartBoard

namespace TimedValue

/-- A value is the last one written at its time. -/
def LastAt (written : List TimedValue) (v : TimedValue) : Prop :=
  ∃ before after, written = before ++ v :: after ∧ ∀ w ∈ after, w.time ≠ v.time

theorem lastAt_concat {written : List TimedValue} {v w : TimedValue} :
    w.LastAt (written ++ [v]) ↔ w = v ∨ (w.LastAt written ∧ w.time ≠ v.time) := by
  constructor
  · rintro ⟨before, after, hwritten, hafter⟩
    rcases List.eq_nil_or_concat after with rfl | ⟨middle, last, rfl⟩
    · obtain ⟨-, hlast⟩ := List.append_inj' hwritten rfl
      exact .inl (List.singleton_inj.mp hlast).symm
    · rw [List.concat_eq_append, ← List.cons_append, ← List.append_assoc] at hwritten
      obtain ⟨hold, hlast⟩ := List.append_inj' hwritten rfl
      obtain rfl := List.singleton_inj.mp hlast
      refine .inr ⟨⟨before, middle, hold, fun u hu => hafter u (by simp [hu])⟩, ?_⟩
      exact (hafter v (by simp)).symm
  · rintro (rfl | ⟨⟨before, after, rfl, hafter⟩, hother⟩)
    · exact ⟨written, [], rfl, fun u hu => by cases hu⟩
    · refine ⟨before, after ++ [v], by simp, fun u hu => ?_⟩
      rcases List.mem_append.mp hu with hold | hnew
      · exact hafter u hold
      · rw [List.mem_singleton.mp hnew]
        exact hother.symm

theorem LastAt.mem {written : List TimedValue} {v : TimedValue} (h : v.LastAt written) :
    v ∈ written := by
  obtain ⟨before, after, rfl, -⟩ := h
  simp

theorem exists_lastAt {written : List TimedValue} {w : TimedValue} (h : w ∈ written) :
    ∃ v : TimedValue, v.LastAt written ∧ v.time = w.time := by
  induction written using List.reverseRecOn with
  | nil => cases h
  | append_singleton written last ih =>
      by_cases hlast : last.time = w.time
      · exact ⟨last, lastAt_concat.mpr (.inl rfl), hlast⟩
      · have hold : w ∈ written := by
          rcases List.mem_append.mp h with hold | hnew
          · exact hold
          · exact absurd (congrArg TimedValue.time (List.mem_singleton.mp hnew)).symm hlast
        obtain ⟨v, hv, htime⟩ := ih hold
        exact ⟨v, lastAt_concat.mpr (.inr ⟨hv, fun heq => hlast (heq.symm.trans htime)⟩), htime⟩

/-- Of values at different times each is the last at its time. -/
theorem lastAt_iff_mem {written : List TimedValue}
    (h : written.Pairwise fun v w => v.time ≠ w.time) {v : TimedValue} :
    v.LastAt written ↔ v ∈ written := by
  refine ⟨LastAt.mem, fun hv => ?_⟩
  obtain ⟨before, after, rfl⟩ := List.append_of_mem hv
  obtain ⟨-, hafter, -⟩ := List.pairwise_append.mp h
  exact ⟨before, after, rfl, fun w hw => ((List.pairwise_cons.mp hafter).1 w hw).symm⟩

end TimedValue

namespace TimeTrace

/-- Every value is later than those before it. -/
def Ascending (values : List TimedValue) : Prop := values.Pairwise fun v w => v.time < w.time

section Ascending

variable {values : List TimedValue} (h : Ascending values)

include h

theorem earlier_eq (time : Int) : earlier time values = values.filter fun v => v.time < time := by
  induction values with
  | nil => rfl
  | cons v values ih =>
      obtain ⟨hlater, hrest⟩ := List.pairwise_cons.mp h
      by_cases hv : v.time < time
      · simpa [earlier, hv] using ih hrest
      · have hnone : ∀ w ∈ values, ¬w.time < time := fun w hw => by
          have := hlater w hw
          omega
        simpa [earlier, hv] using hnone

theorem notEarlier_eq (time : Int) :
    notEarlier time values = values.filter fun v => time ≤ v.time := by
  induction values with
  | nil => rfl
  | cons v values ih =>
      obtain ⟨hlater, hrest⟩ := List.pairwise_cons.mp h
      by_cases hv : v.time < time
      · have hnot : ¬time ≤ v.time := by omega
        simpa [notEarlier, hv, hnot] using ih hrest
      · have hall : ∀ w ∈ v :: values, decide (time ≤ w.time) = true := fun w hw => by
          rcases List.mem_cons.mp hw with rfl | hw
          · simpa using hv
          · have := hlater w hw
            simp only [decide_eq_true_eq]
            omega
        rw [List.filter_eq_self.mpr hall]
        simp [notEarlier, hv]

/-- Without a value at this very time, the values from a time on are those after it. -/
theorem after_eq (time : Int) :
    (if hasTime time values then (notEarlier time values).drop 1 else notEarlier time values) =
      values.filter fun v => time < v.time := by
  have hascending := h.filter fun v => time ≤ v.time
  have hafter : values.filter (fun v => time < v.time) =
      (notEarlier time values).filter fun v => time < v.time := by
    rw [notEarlier_eq h, List.filter_filter]
    refine List.filter_congr fun v _ => ?_
    rw [Bool.eq_iff_iff]
    simp only [Bool.and_eq_true, decide_eq_true_eq]
    omega
  rw [hafter]
  unfold hasTime
  rw [← notEarlier_eq h] at hascending
  have hfrom : ∀ v ∈ notEarlier time values, time ≤ v.time := fun v hv => by
    rw [notEarlier_eq h] at hv
    simpa using (List.mem_filter.mp hv).2
  cases hcut : notEarlier time values with
  | nil => rfl
  | cons first rest =>
      rw [hcut] at hascending hfrom
      obtain ⟨hlater, -⟩ := List.pairwise_cons.mp hascending
      have hrest : ∀ v ∈ rest, decide (time < v.time) = true := fun v hv => by
        have := hlater v hv
        have := hfrom first List.mem_cons_self
        simp only [decide_eq_true_eq]
        omega
      rw [List.filter_cons, List.filter_eq_self.mpr hrest]
      have hfirst := hfrom first List.mem_cons_self
      by_cases hsame : first.time = time
      · simp [hsame]
      · have hbeyond : time < first.time := by omega
        simp [hsame, hbeyond]

theorem place_eq (v : TimedValue) : place v values =
    (values.filter fun w => w.time < v.time) ++ v :: values.filter fun w => v.time < w.time := by
  unfold place
  dsimp only
  rw [after_eq h, earlier_eq h]

/-- A value that is placed replaces the one at its time. -/
theorem mem_place_iff {v w : TimedValue} :
    w ∈ place v values ↔ w = v ∨ (w ∈ values ∧ w.time ≠ v.time) := by
  rw [place_eq h]
  simp only [List.mem_append, List.mem_cons, List.mem_filter, decide_eq_true_eq]
  have hne : w.time ≠ v.time ↔ w.time < v.time ∨ v.time < w.time := by omega
  grind

theorem ascending_place (v : TimedValue) : Ascending (place v values) := by
  rw [place_eq h]
  unfold Ascending at *
  rw [List.pairwise_append, List.pairwise_cons]
  refine ⟨h.filter _, ⟨?_, h.filter _⟩, ?_⟩
  · intro w hw
    simpa using (List.mem_filter.mp hw).2
  · intro u hu w hw
    have hbefore : u.time < v.time := by simpa using (List.mem_filter.mp hu).2
    rcases List.mem_cons.mp hw with rfl | hafter
    · exact hbefore
    · have hafter : v.time < w.time := by simpa using (List.mem_filter.mp hafter).2
      omega

end Ascending

theorem Ascending.le_last {front : List TimedValue} {newest : TimedValue}
    (h : Ascending (front ++ [newest])) : ∀ v ∈ front ++ [newest], v.time ≤ newest.time := by
  intro v hv
  rcases List.mem_append.mp hv with hfront | hnew
  · exact Int.le_of_lt ((List.pairwise_append.mp h).2.2 v hfront newest List.mem_cons_self)
  · exact Int.le_of_eq (congrArg TimedValue.time (List.mem_singleton.mp hnew))

theorem Ascending.exists_newest {values : List TimedValue} (h : Ascending values)
    (hsome : values ≠ []) : ∃ newest ∈ values, ∀ v ∈ values, v.time ≤ newest.time := by
  obtain ⟨front, newest, rfl⟩ := (List.eq_nil_or_concat values).resolve_left hsome
  rw [List.concat_eq_append] at h ⊢
  exact ⟨newest, by simp, h.le_last⟩

theorem drop_earlier (time : Int) (values : List TimedValue) :
    values.drop (earlier time values).length = notEarlier time values := by
  have hcut := earlier_append_notEarlier time values
  calc values.drop (earlier time values).length
      = (earlier time values ++ notEarlier time values).drop (earlier time values).length := by
        rw [hcut]
    _ = notEarlier time values := List.drop_left

/-- A time is not too old beside some values; an age of zero is no limit. -/
def Fresh (maxAge : Nat) (values : List TimedValue) (time : Int) : Prop :=
  maxAge = 0 ∨ ∀ v ∈ values, v.time - time ≤ maxAge

theorem Fresh.of_covered {maxAge : Nat} {values others : List TimedValue} {time : Int}
    (h : Fresh maxAge others time) (hcovered : ∀ v ∈ values, ∃ w ∈ others, v.time ≤ w.time) :
    Fresh maxAge values time := by
  refine h.imp_right fun hall v hv => ?_
  obtain ⟨w, hw, hle⟩ := hcovered v hv
  have := hall w hw
  omega

/-- The values that stay when the stale ones are dropped are those not too old beside the rest. -/
theorem mem_drop_stale_iff {values : List TimedValue} (h : Ascending values)
    (htimes : ∀ v ∈ values, earliestTime ≤ v.time) (maxAge : Nat) {w : TimedValue} :
    w ∈ values.drop (staleCount maxAge values) ↔ w ∈ values ∧ Fresh maxAge values w.time := by
  unfold staleCount Fresh
  cases hlast : values.getLast? with
  | none =>
      obtain rfl := List.getLast?_eq_none_iff.mp hlast
      simp
  | some newest =>
      obtain ⟨front, rfl⟩ := List.getLast?_eq_some_iff.mp hlast
      dsimp only
      by_cases hage : maxAge = 0
      · simp [hage]
      rw [if_neg hage, drop_earlier, notEarlier_eq h, List.mem_filter]
      simp only [hage, false_or, decide_eq_true_eq]
      refine and_congr_right fun hw => ?_
      have hleast := htimes w hw
      unfold cutoff
      constructor
      · intro hkept v hv
        have := h.le_last v hv
        omega
      · intro hfresh
        have := hfresh newest (by simp)
        omega

/-- A trace keeps, of all values written to it, the last at each time that is not too old beside
them, in the order of their times. -/
structure Keeps (maxAge : Nat) (written values : List TimedValue) : Prop where
  ascending : Ascending values
  mem_iff : ∀ v, v ∈ values ↔ v.LastAt written ∧ Fresh maxAge written v.time
  /-- Nothing that was written is later than all that is kept. -/
  covers : ∀ v ∈ written, ∃ w ∈ values, v.time ≤ w.time

theorem keeps_nil (maxAge : Nat) : Keeps maxAge [] [] where
  ascending := List.Pairwise.nil
  mem_iff v := by simp [TimedValue.LastAt]
  covers v hv := by cases hv

theorem Keeps.insert {written : List TimedValue} {trace : TimeTrace}
    (h : Keeps trace.maxAge written trace.values) {v : TimedValue}
    (htimes : ∀ w ∈ written ++ [v], earliestTime ≤ w.time) :
    Keeps trace.maxAge (written ++ [v]) (trace.insert v).values := by
  have hplace : ∀ {w}, w ∈ place v trace.values ↔ w = v ∨ (w ∈ trace.values ∧ w.time ≠ v.time) :=
    mem_place_iff h.ascending
  have hascending := ascending_place h.ascending v
  have hwritten : ∀ w ∈ place v trace.values, w ∈ written ++ [v] := fun w hw => by
    rcases hplace.mp hw with rfl | ⟨hold, -⟩
    · simp
    · simp [((h.mem_iff w).mp hold).1.mem]
  have hcovers : ∀ w ∈ written ++ [v], ∃ u ∈ place v trace.values, w.time ≤ u.time := fun w hw => by
    rcases List.mem_append.mp hw with hold | hnew
    · obtain ⟨u, hu, hle⟩ := h.covers w hold
      by_cases hsame : u.time = v.time
      · exact ⟨v, hplace.mpr (.inl rfl), hsame ▸ hle⟩
      · exact ⟨u, hplace.mpr (.inr ⟨hu, hsame⟩), hle⟩
    · exact ⟨v, hplace.mpr (.inl rfl), Int.le_of_eq (by rw [List.mem_singleton.mp hnew])⟩
  have hstays {w : TimedValue} : w ∈ (trace.insert v).values ↔
      w ∈ place v trace.values ∧ Fresh trace.maxAge (place v trace.values) w.time :=
    mem_drop_stale_iff hascending (fun w hw => htimes w (hwritten w hw)) trace.maxAge
  have hfresh (time : Int) : Fresh trace.maxAge (place v trace.values) time ↔
      Fresh trace.maxAge (written ++ [v]) time :=
    ⟨fun hall => hall.of_covered hcovers,
      fun hall => hall.of_covered fun w hw => ⟨w, hwritten w hw, Int.le_refl _⟩⟩
  have hearlier {time : Int} (hall : Fresh trace.maxAge (written ++ [v]) time) :
      Fresh trace.maxAge written time :=
    hall.of_covered fun w hw => ⟨w, List.mem_append_left _ hw, Int.le_refl _⟩
  refine ⟨?_, fun w => ?_, fun w hw => ?_⟩
  · exact hascending.drop
  · rw [hstays, hfresh, hplace, TimedValue.lastAt_concat, h.mem_iff]
    constructor
    · rintro ⟨rfl | ⟨⟨hlast, -⟩, hother⟩, hall⟩
      · exact ⟨.inl rfl, hall⟩
      · exact ⟨.inr ⟨hlast, hother⟩, hall⟩
    · rintro ⟨rfl | ⟨hlast, hother⟩, hall⟩
      · exact ⟨.inl rfl, hall⟩
      · exact ⟨.inr ⟨⟨hlast, hearlier hall⟩, hother⟩, hall⟩
  · -- the newest of all values is not too old beside the others
    obtain ⟨u, hu, hle⟩ := hcovers w hw
    obtain ⟨newest, hnewest, hmost⟩ := hascending.exists_newest (List.ne_nil_of_mem hu)
    refine ⟨newest, hstays.mpr ⟨hnewest, .inr fun x hx => ?_⟩, Int.le_trans hle (hmost u hu)⟩
    have := hmost x hx
    omega

/-- Values at different times leave the same whatever their order. -/
theorem Keeps.eq_of_perm {maxAge : Nat} {written written' values values' : List TimedValue}
    (h : Keeps maxAge written values) (h' : Keeps maxAge written' values')
    (hperm : written'.Perm written) (hdistinct : written.Pairwise fun v w => v.time ≠ w.time) :
    values' = values := by
  have hdistinct' := (hperm.pairwise_iff fun hne => Ne.symm hne).mpr hdistinct
  have hmem (v : TimedValue) : v ∈ values' ↔ v ∈ values := by
    rw [h.mem_iff, h'.mem_iff, TimedValue.lastAt_iff_mem hdistinct,
      TimedValue.lastAt_iff_mem hdistinct', hperm.mem_iff, Fresh, Fresh]
    simp only [hperm.mem_iff]
  have hnodup {values : List TimedValue} (h : Ascending values) : values.Nodup :=
    h.imp fun hlt heq => by
      rw [heq] at hlt
      exact Int.lt_irrefl _ hlt
  refine List.Perm.eq_of_pairwise (fun v w _ _ hvw hwv => ?_) h'.ascending h.ascending
    ((List.perm_ext_iff_of_nodup (hnodup h'.ascending) (hnodup h.ascending)).mpr hmem)
  exact absurd (Int.lt_trans hvw hwv) (Int.lt_irrefl _)

/-- Times that are counted with 53 bits. -/
def Dated (values : List TimedValue) : Prop := ∀ v ∈ values, v.time.natAbs < 2 ^ 53

theorem dated_nil : Dated [] := fun _ hv => absurd hv List.not_mem_nil

theorem Dated.earliestTime_le {values : List TimedValue} (h : Dated values) :
    ∀ v ∈ values, earliestTime ≤ v.time := by
  intro v hv
  have hdated := h v hv
  have hearliest : earliestTime = -(2 ^ 63) := by decide
  omega

/-- A time is within so many seconds of all that has been written; zero seconds are no limit. -/
def Recent (seconds : Nat) (written : List TimedValue) (time : Int) : Prop :=
  seconds = 0 ∨ ∀ v ∈ written, v.time - time ≤ 1000 * seconds

/-- Between such times, an age in seconds is what it is in milliseconds, however great. -/
theorem fresh_ageLimit_iff {written : List TimedValue} (h : Dated written) {time : Int}
    (htime : time.natAbs < 2 ^ 53) (seconds : Nat) :
    Fresh (ageLimit seconds) written time ↔ Recent seconds written time := by
  have hgreatest : greatestAge = 2 ^ 63 - 1 := by decide
  unfold Fresh Recent ageLimit
  rw [hgreatest]
  refine or_congr (by omega) (forall₂_congr fun v hv => ?_)
  have := h v hv
  omega

/-- Values are drawn as the last writes: of all that has been written, the last at each time within
so many seconds of the latest. They ascend in time, and so do the points drawn of them. -/
structure DrawsLastWrites (seconds : Nat) (written values : List TimedValue) : Prop where
  mem_iff : ∀ v, v ∈ values ↔ v.LastAt written ∧ Recent seconds written v.time
  one : ∀ w ∈ written, Recent seconds written w.time → ∃! v, v ∈ values ∧ v.time = w.time
  ascending : Ascending values
  pointsAscending : values.Pairwise fun v w => v.point.x.Less w.point.x

theorem Ascending.eq_of_time_eq {values : List TimedValue} (h : Ascending values) {v w : TimedValue}
    (hv : v ∈ values) (hw : w ∈ values) (htime : v.time = w.time) : v = w := by
  obtain ⟨i, hi, rfl⟩ := List.mem_iff_getElem.mp hv
  obtain ⟨j, hj, rfl⟩ := List.mem_iff_getElem.mp hw
  have hlt := List.pairwise_iff_getElem.mp h
  rcases Nat.lt_trichotomy i j with hbefore | rfl | hafter
  · have := hlt i j hi hj hbefore
    omega
  · rfl
  · have := hlt j i hj hi hafter
    omega

theorem Keeps.drawsLastWrites {seconds : Nat} {written values : List TimedValue}
    (h : Keeps (ageLimit seconds) written values) (hdated : Dated written) :
    DrawsLastWrites seconds written values := by
  have hmem (v : TimedValue) : v ∈ values ↔ v.LastAt written ∧ Recent seconds written v.time := by
    rw [h.mem_iff]
    exact and_congr_right fun hlast => fresh_ageLimit_iff hdated (hdated v hlast.mem) seconds
  have hkept : Dated values := fun v hv => hdated v ((hmem v).mp hv).1.mem
  refine ⟨hmem, fun w hw hrecent => ?_, h.ascending, ?_⟩
  · obtain ⟨v, hlast, htime⟩ := TimedValue.exists_lastAt hw
    have hv : v ∈ values := (hmem v).mpr ⟨hlast, htime ▸ hrecent⟩
    refine ⟨v, ⟨hv, htime⟩, fun u hu => ?_⟩
    exact h.ascending.eq_of_time_eq hu.1 hv (hu.2.trans htime.symm)
  · refine h.ascending.imp_of_mem fun {v w} hv hw hlt => ?_
    have hx (v : TimedValue) : v.point.x = Binary64.ofInt v.time := by rw [TimedValue.point]
    rw [hx, hx]
    exact Binary64.less_ofInt (hkept v hv) (hkept w hw) hlt

end TimeTrace

end ChartBoard
