import ChartBoard.Proofs.Chart.FiniteNumbers
import ChartBoard.Proofs.SharedBoard.ChartSteps

/-!
Only finite numbers reach a chart. Neither the words for infinite numbers nor decimals beyond the
largest number are read, so that a line brings nothing but finite numbers; a chart adds to them only
times and the numbers of bars. This holds of all charts and of all slots of a shared board, whatever
its sessions hear (`SharedBoard.numbers_are_finite`).
-/

namespace ChartBoard

/-- A line keeps the numbers of a chart finite, and counts one bar at most. -/
theorem Chart.leads_allFinite {clock : Clock}
    (hclock : ∀ i, (Binary64.ofInt (clock i).now).isFinite = true) {raw : String}
    {command : Command}
    (hread : Command.read raw = .ok command) {bars : Nat} (hbars : bars + 1 < Binary64.overflow) :
    Chart.Leads clock command (Chart.AllFinite bars) (Chart.AllFinite (bars + 1)) := by
  intro before after hstep hbefore chart hchart
  cases hstep with
  | keeps => exact (hbefore chart hchart).mono (Nat.le_succ bars)
  | creates _ kind =>
      obtain rfl := Option.some.inj hchart
      exact allFinite_blank _ kind Attributes.allFinite_default
  | configures hset =>
      obtain rfl := Option.some.inj hchart
      exact ((hbefore _ rfl).setAttribute hset).mono (Nat.le_succ bars)
  | restarts earlier =>
      obtain rfl := Option.some.inj hchart
      exact allFinite_blank _ _ (hbefore _ rfl).attributes
  | addsPlot hadd =>
      obtain rfl := Option.some.inj hchart
      exact (((hbefore _ rfl).addPlot hadd).mono (Nat.le_succ bars)).settled
  | works hstep earlier =>
      obtain rfl := Option.some.inj hchart
      have hearlier := hbefore earlier rfl
      refine AllFinite.settled ?_
      cases command with
      | clear index =>
          obtain rfl := Option.some.inj hstep
          exact (attempt_keeps (P := AllFinite bars) (fun h => hearlier.clear h) hearlier).mono
            (Nat.le_succ bars)
      | replot index =>
          obtain rfl := Option.some.inj hstep
          exact (attempt_keeps (P := AllFinite bars) (fun h => hearlier.replot h) hearlier).mono
            (Nat.le_succ bars)
      | data values =>
          obtain rfl := Option.some.inj hstep
          exact hearlier.feed hclock (Command.dataText_of_read hread).allFinite hbars
      | comment | set | init | addPlot | enableStatus => cases hstep

/-- The readings of a clock that counts milliseconds with 64 bits. -/
def Clock.FitsWord (clock : Clock) : Prop :=
  ∀ i, -2 ^ 63 ≤ (clock i).now ∧ (clock i).now < 2 ^ 63

theorem Clock.FitsWord.isFinite {clock : Clock} (h : clock.FitsWord) (i : Nat) :
    (Binary64.ofInt (clock i).now).isFinite = true := by
  have hreading := h i
  have hword : (clock i).now.natAbs < 2 ^ 64 := by omega
  exact Binary64.isFinite_ofInt (Nat.lt_trans hword (by decide +kernel))

namespace SharedBoard

variable {Name : Type} [DecidableEq Name]

theorem Consistent.carries_allFinite {state : SharedBoard Name} (h : state.Consistent) {bars : Nat}
    (hcarries : state.Carries (Chart.AllFinite bars) Picture.AllFinite)
    {messages : List (Message Name)} (hclock : ∀ message ∈ messages, message.clock.FitsWord)
    (hbars : bars + messages.length < Binary64.overflow) :
    (state.hearAll messages).Carries
      (Chart.AllFinite (bars + messages.length)) Picture.AllFinite := by
  induction messages generalizing state bars with
  | nil => exact hcarries
  | cons message messages ih =>
      rw [List.length_cons] at hbars
      have hheard : (state.hear message).Carries (Chart.AllFinite (bars + 1)) Picture.AllFinite :=
        h.carries_hear hcarries (fun _ hchart => hchart.mono (Nat.le_succ bars))
          (fun _ hchart => hchart.picture) fun _ hread =>
            Chart.leads_allFinite (hclock message List.mem_cons_self).isFinite hread (by omega)
      rw [hearAll_cons, List.length_cons, Nat.add_comm messages.length, ← Nat.add_assoc]
      exact ih (h.hear message) hheard
        (fun later hlater => hclock later (List.mem_cons_of_mem _ hlater)) (by omega)

/-- After every run all numbers are finite: the bounds of the scales in the attributes and on the
axes, the points and the positions of the needles, of the charts of all sessions and in all slots.
Clocks have 64 bits; and as bars are counted on and on, there are not so many lines that their
number itself is infinite. -/
theorem numbers_are_finite (slotOf : Name → Nat) (slotCount : Nat) (settings : BoardSettings)
    (window : Option Window) (messages : List (Message Name))
    (hclock : ∀ message ∈ messages, message.clock.FitsWord)
    (hlines : messages.length < Binary64.overflow) :
    let state := (fresh slotOf (Board.create slotCount settings window)).hearAll messages
    (∀ name chart, (state.sessions name).chart = some chart →
      chart.attributes.AllFinite ∧ chart.picture.AllFinite) ∧
    ∀ slot picture, state.board.picture? slot = some picture → picture.AllFinite := by
  intro state
  have hcarries : state.Carries (Chart.AllFinite (0 + messages.length)) Picture.AllFinite :=
    (consistent_fresh slotOf _).carries_allFinite
      (carries_fresh _ _ slotOf slotCount settings window) hclock (by omega)
  refine ⟨fun name chart hchart => ?_, hcarries.pictures⟩
  have hfinite := hcarries.charts name chart hchart
  exact ⟨hfinite.attributes, hfinite.picture⟩

/-- One session over time and one with bars in another slot. The largest number is taken; the number
after it, an infinite scale and a line with a value that is no number are not. -/
theorem numbers_are_finite_two_sessions :
    let clock : Clock := fun _ => 1700000000000
    let time := ["set graph=time", "set max_scale_value=1.7976931348623157e308",
      "set min_scale_value=-Infinity", "set max_scale_value=1.8e308",
      "set max_age_seconds=0", "init", "add_plot", "2.5", "0:2013;1;2;23;10;5;587:-1e-300"]
    let bars := ["set graph=bar", "init", "add_plot", "5", "nan", "1e309", "6"]
    let messages : List (Message Bool) :=
      time.map (fun line => ⟨true, clock, line⟩) ++ bars.map fun line => ⟨false, clock, line⟩
    let state :=
      (fresh (fun name => if name then 0 else 1) (Board.create 2 {} none)).hearAll messages
    let points := (state.board.picture? 1).map fun picture => picture.plots.map Plot.data
    (∀ message ∈ messages, message.clock.FitsWord) ∧ messages.length < Binary64.overflow ∧
      points = some [.points [⟨.ofNat 1, .ofNat 5⟩, ⟨.ofNat 2, .ofNat 6⟩]] ∧
      (state.board.picture? 0).map Picture.pointCount = some 2 ∧
      (∃ chart, (state.sessions true).chart = some chart ∧ chart.attributes.AllFinite) ∧
      ∃ picture, state.board.picture? 0 = some picture ∧ picture.AllFinite := by
  intro clock time bars messages state points
  have hclock : ∀ message ∈ messages, message.clock.FitsWord := by
    have hreading : clock.FitsWord := fun _ => ⟨by decide, by decide⟩
    intro message hmessage
    rcases List.mem_append.mp hmessage with hmem | hmem <;>
      obtain ⟨line, -, rfl⟩ := List.mem_map.mp hmem <;> exact hreading
  have hlines : messages.length < Binary64.overflow := by decide +kernel
  obtain ⟨hcharts, hpictures⟩ := numbers_are_finite (fun name => if name then 0 else 1) 2 {} none
    messages hclock hlines
  have hcount : (state.board.picture? 0).map Picture.pointCount = some 2 := by decide +kernel
  have hsome : (state.sessions true).chart.isSome = true := by decide +kernel
  obtain ⟨chart, hchart⟩ := Option.isSome_iff_exists.mp hsome
  obtain ⟨picture, hpicture, -⟩ := Option.map_eq_some_iff.mp hcount
  exact ⟨hclock, hlines, by decide +kernel, hcount, ⟨chart, hchart, (hcharts true chart hchart).1⟩,
    picture, hpicture, hpictures 0 picture hpicture⟩

end SharedBoard

end ChartBoard
