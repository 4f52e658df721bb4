import ChartBoard.Proofs.Chart.Rounds
import ChartBoard.Proofs.Client.ChartCalls
import ChartBoard.Proofs.Demo.Signals

/-!
The charts of the demo. Whatever a session at its place has heard, it accepts every line of the demo
of a chart, as long as the data are numbers and dates that the protocol has; and its slot shows what
the demo promises then (`Demo.Promised`). Rounds over a bar chart or a figure keep the passes that
have been made (`Client.succeeds_rounds`), so the number of rounds does not matter.
-/

namespace ChartBoard

open Text Connection ClientCall
open Session (Place Stands Opened Feeds Accepts)
open CursorTrace (Follows)

namespace Demo

/-- The last value of a needle, which stands at zero before the first. -/
def lastValue (value : Nat → Binary64) : Nat → Binary64
  | 0 => .zero
  | sample + 1 => value sample

/-- The last of the rounds of bars. -/
def lastRound (count : Nat) : Nat := max 1 ((count + barCount - 1) / barCount) - 1

/-- The plots of all charts of the demo. -/
def plots : List PlotSettings := [sinePlot, noisePlot, loadPlot, figurePlot, speedPlot, rpmPlot]

theorem sendable_plots : ∀ settings ∈ plots, settings.Sendable := by
  have hnumbers : ∀ settings ∈ plots,
      settings.minScale.isFinite = true ∧ settings.maxScale.isFinite = true := by decide +kernel
  have hnames :
      ∀ settings ∈ plots, ∀ text ∈ [settings.plotName, settings.xAxisName, settings.yAxisName],
        OneLine text.toList ∧ Short text := by decide +kernel
  intro settings h
  exact ⟨(hnumbers settings h).1, (hnumbers settings h).2, hnames settings h⟩

/-- What a demo promises of its chart. -/
def Promised (signals : Signals) (count : Nat) (kind : ChartKind) (picture : Picture) : Prop :=
  picture.kind = kind ∧
    match kind with
    | .time => picture.axes = [sinePlot.axis, noisePlot.axis] ∧
        picture.plots.map (fun plot => plot.style.axis) = [0, 1]
    | .bar => ∃ style, picture.plots = [⟨style, .points ((List.range barCount).map fun n =>
        ⟨.ofNat (n + 1), signals.load (lastRound count) n⟩)⟩]
    | .xy => ∃ style, picture.plots = [⟨style, .points ((List.range (max 1 count)).map fun n =>
        signals.figure (phaseCount - 1) (max 1 count) n)⟩]
    | .dial => ∃ style style', picture.plots = [⟨style, .value (lastValue signals.speed count)⟩,
        ⟨style', .value (lastValue signals.rpm count)⟩]

end Demo

namespace Client

/-- A client whose chart shows so many whole rounds, and the first values of the next. -/
def Drawn {α : Type} (limit : Nat) (place : Place) (form : Series.Form CursorTrace)
    (point : Nat → α → Point) (size : Nat) (value : Nat → Nat → α) (round sample : Nat) :
    Client (Recorded ServedLink) → Prop :=
  Rests limit false []
    (Feeds place (Chart.Draws form (Follows point (roundPasses size value round sample))))

/-- Rounds of values, each followed by a rewind, are drawn over each other. -/
theorem succeeds_rounds {α : Type} {limit : Nat} {place : Place} {form : Series.Form CursorTrace}
    {point : Nat → α → Point} {size : Nat} {value : Nat → Nat → α}
    {write : Nat → Nat → Call (Recorded ServedLink) Unit} (hlimit : roomyLimit ≤ limit)
    (hform : form = .bar ∨ form = .xy) (rounds : Nat)
    (hwrite : ∀ round < rounds, ∀ sample < size,
      Succeeds (Drawn limit place form point size value round sample) (write round sample)
        (Drawn limit place form point size value round (sample + 1))) :
    Succeeds (Drawn limit place form point size value 0 0)
      (Demo.repeated rounds fun round => do
        Demo.repeated size (write round)
        replot 0)
      (Drawn limit place form point size value rounds 0) := by
  refine succeeds_repeat (fun round => Drawn limit place form point size value round 0)
    (fun _ h => h.drained) rounds fun round hround => ?_
  have hpass : Succeeds (Drawn limit place form point size value round 0)
      (Demo.repeated size (write round)) (Drawn limit place form point size value round size) :=
    succeeds_repeat (Drawn limit place form point size value round) (fun _ h => h.drained) size
      fun sample hsample => hwrite round hround sample hsample
  exact hpass.bind (succeeds_replot hlimit (Chart.updates_replot hform fun trace h =>
    h.rewind_round))

end Client

namespace Demo

open Client

section Charts

variable {signals : Signals} {limit : Nat} {place : Place} (hlimit : roomyLimit ≤ limit)
  (hsignals : signals.Writable) {count : Nat} (hcount : count < word64)

include hlimit hsignals

theorem succeeds_bar :
    Succeeds (Rests limit false [] (Stands place)) (bar signals count)
      (Rests limit false [] (Feeds place fun chart =>
        Promised signals count .bar chart.picture)) := by
  have hopened : Succeeds (Rests limit false [] (Stands place))
      (openChart ChartKind.bar.name "Bar chart") (Rests limit false [] (Opened place .bar)) :=
    succeeds_openChart (sendable_chartLines hlimit _ (oneLine_ofList (by decide)) (by decide))
  have hadded : Succeeds (Rests limit false [] (Opened place .bar)) (Client.addPlot (some loadPlot))
      (Drawn limit place .bar PassForm.bar.point barCount signals.load 0 0) :=
    succeeds_firstPlot hlimit (sendable_plots loadPlot (by simp [plots]))
      fun attributes => ⟨_, rfl, _, {}, rfl, CursorTrace.follows_empty⟩
  have hwrite (round sample : Nat) :
      Succeeds (Drawn limit place .bar PassForm.bar.point barCount signals.load round sample)
        (addValues [signals.load round sample])
        (Drawn limit place .bar PassForm.bar.point barCount signals.load round (sample + 1)) :=
    succeeds_addValues hlimit (List.cons_ne_nil _ _) (Nat.le_succ 1)
      (List.forall_mem_singleton.mpr (hsignals.load round sample))
      (Chart.updates_bar fun trace h => h.write_round)
  have hrounds := succeeds_rounds hlimit (.inl rfl) (lastRound count + 1)
    fun round _ sample _ => hwrite round sample
  have hcount : lastRound count + 1 = max 1 ((count + barCount - 1) / barCount) := by
    unfold lastRound
    omega
  rw [bar, ← hcount]
  refine hopened.bind (hadded.bind (hrounds.imp (fun _ h => h) fun client h => ?_))
  refine { h with reached := h.reached.imp fun chart hdraws => ?_ }
  obtain ⟨hkind, style, trace, hplots, htrace⟩ := hdraws.picture (.inl rfl)
  rw [htrace.points_of_rounds] at hplots
  exact ⟨hkind, style, hplots⟩

include hcount in
theorem succeeds_xy :
    Succeeds (Rests limit false [] (Stands place)) (xy signals count)
      (Rests limit false [] (Feeds place fun chart =>
        Promised signals count .xy chart.picture)) := by
  let size := max 1 count
  let value (phase sample : Nat) : Point := signals.figure phase size sample
  have hopened : Succeeds (Rests limit false [] (Stands place))
      (openChart ChartKind.xy.name "XY chart, redrawn in place")
      (Rests limit false [] (Opened place .xy)) :=
    succeeds_openChart (sendable_chartLines hlimit _ (oneLine_ofList (by decide)) (by decide))
  have hadded :
      Succeeds (Rests limit false [] (Opened place .xy)) (Client.addPlot (some figurePlot))
        (Drawn limit place .xy PassForm.xy.point size value 0 0) :=
    succeeds_firstPlot hlimit (sendable_plots figurePlot (by simp [plots]))
      fun attributes => ⟨_, rfl, _, {}, rfl, CursorTrace.follows_empty⟩
  have hsize : size < word64 := Nat.max_lt.mpr ⟨by decide, hcount⟩
  have hwrite (phase : Nat) (hphase : phase < phaseCount) (sample : Nat) (hsample : sample < size) :
      Succeeds (Drawn limit place .xy PassForm.xy.point size value phase sample)
        (addPoint ⟨0, (value phase sample).x, (value phase sample).y⟩)
        (Drawn limit place .xy PassForm.xy.point size value phase (sample + 1)) :=
    succeeds_addPoint hlimit (by decide : 0 < word64) (hsignals.figure hphase hsample hsize).1
      (hsignals.figure hphase hsample hsize).2 (Chart.updates_point fun trace h => h.write_round)
  have hrounds := succeeds_rounds hlimit (.inr rfl) phaseCount hwrite
  refine hopened.bind (hadded.bind (hrounds.imp (fun _ h => h) fun client h => ?_))
  refine { h with reached := h.reached.imp fun chart hdraws => ?_ }
  obtain ⟨hkind, style, trace, hplots, htrace⟩ := hdraws.picture (.inr rfl)
  have hpoint (n : Nat) (p : Point) : PassForm.xy.point n p = p := rfl
  rw [Follows.points_of_rounds htrace] at hplots
  simp only [hpoint] at hplots
  exact ⟨hkind, style, hplots⟩

theorem succeeds_dial :
    Succeeds (Rests limit false [] (Stands place)) (dial signals count)
      (Rests limit false [] (Feeds place fun chart =>
        Promised signals count .dial chart.picture)) := by
  let Needles (sample : Nat) : Client (Recorded ServedLink) → Prop :=
    Rests limit false [] (Feeds place
      (Chart.HasNeedles (lastValue signals.speed sample) (lastValue signals.rpm sample)))
  have hopened : Succeeds (Rests limit false [] (Stands place))
      (openChart ChartKind.dial.name "Dial chart") (Rests limit false [] (Opened place .dial)) :=
    succeeds_openChart (sendable_chartLines hlimit _ (oneLine_ofList (by decide)) (by decide))
  have hspeed :
      Succeeds (Rests limit false [] (Opened place .dial)) (Client.addPlot (some speedPlot))
        (Rests limit false [] (Feeds place fun chart =>
          ∃ style, chart.series = .dial [⟨style, .zero⟩])) :=
    succeeds_firstPlot hlimit (sendable_plots speedPlot (by simp [plots]))
      fun attributes => ⟨_, rfl, _, rfl⟩
  have hrpm :
      Succeeds (Rests limit false [] (Feeds place fun chart =>
          ∃ style, chart.series = .dial [⟨style, .zero⟩]))
        (Client.addPlot (some rpmPlot)) (Needles 0) := by
    refine succeeds_nextPlot hlimit (sendable_plots rpmPlot (by simp [plots])) ?_
    rintro chart ⟨style, hseries⟩
    exact Chart.addPlot_needle hseries _
  have hvalues : Succeeds (Needles 0)
      (repeated count fun sample => addValues [signals.speed sample, signals.rpm sample])
      (Needles count) := by
    refine succeeds_repeat Needles (fun _ h => h.drained) count fun sample _ => ?_
    refine succeeds_addValues hlimit (List.cons_ne_nil _ _) (Nat.le_refl 2) ?_
      (Chart.updates_needles _ _ _ _)
    exact List.forall_mem_cons.mpr ⟨hsignals.speed sample,
      List.forall_mem_singleton.mpr (hsignals.rpm sample)⟩
  refine hopened.bind (hspeed.bind (hrpm.bind (hvalues.imp (fun _ h => h) fun client h => ?_)))
  exact { h with reached := h.reached.imp fun chart hneedles => hneedles.picture }

/-- The lines with values and their times that have been kept back. -/
def timedLines (signals : Signals) (count : Nat) : List String :=
  (List.range count).flatMap fun sample =>
    [String.ofList (Command.timedLine 0 (signals.moment sample) (signals.signedNoise sample)),
      String.ofList (Command.timedLine 1 (signals.moment sample) (signals.lateNoise sample))]

omit hlimit hsignals in
theorem timedLines_succ (signals : Signals) (count : Nat) :
    timedLines signals (count + 1) = timedLines signals count ++
      [String.ofList (Command.timedLine 0 (signals.moment count) (signals.signedNoise count))] ++
        [String.ofList (Command.timedLine 1 (signals.moment count) (signals.lateNoise count))] := by
  rw [timedLines, List.range_succ, List.flatMap_append, List.append_assoc]
  rfl

theorem sendable_timedLines : ∀ line ∈ timedLines signals count, Sendable limit line := by
  intro line hline
  obtain ⟨sample, -, hsample⟩ := List.mem_flatMap.mp hline
  have hyear := hsignals.moment sample
  rcases List.mem_pair.mp hsample with rfl | rfl
  · exact Command.sendable_timedLine hlimit (by decide) hyear (hsignals.signedNoise sample)
  · exact Command.sendable_timedLine hlimit (by decide) hyear (hsignals.lateNoise sample)

omit hlimit in
/-- A chart with two plots over time accepts them. -/
theorem accepts_timedLines :
    Accepts (Feeds place (Chart.OwnAxes .time [sinePlot.axis, noisePlot.axis]))
      (timedLines signals count)
      (Feeds place (Chart.OwnAxes .time [sinePlot.axis, noisePlot.axis])) := by
  refine Session.accepts_each fun line hline => ?_
  obtain ⟨sample, -, hsample⟩ := List.mem_flatMap.mp hline
  have hyear := hsignals.moment sample
  rcases List.mem_pair.mp hsample with rfl | rfl
  · exact Session.accepts_onPlots
      (Command.read_timedLine (by decide) hyear (hsignals.signedNoise sample))
        (Chart.updates_ownAxes rfl)
  · exact Session.accepts_onPlots
      (Command.read_timedLine (by decide) hyear (hsignals.lateNoise sample))
        (Chart.updates_ownAxes rfl)

include hcount in
theorem succeeds_time :
    Succeeds (Rests limit false [] (Stands place)) (time signals count)
      (Rests limit false [] (Feeds place fun chart =>
        Promised signals count .time chart.picture)) := by
  let Pictured : Session → Board → Prop :=
    Feeds place (Chart.OwnAxes .time [sinePlot.axis, noisePlot.axis])
  have hopened : Succeeds (Rests limit false [] (Stands place))
      (openChart ChartKind.time.name "Time chart, two traces with separate Y axes")
      (Rests limit false [] (Opened place .time)) :=
    succeeds_openChart (sendable_chartLines hlimit _ (oneLine_ofList (by decide)) (by decide))
  have hsine : Succeeds (Rests limit false [] (Opened place .time)) (Client.addPlot (some sinePlot))
      (Rests limit false [] (Feeds place (Chart.OwnAxes .time [sinePlot.axis]))) :=
    succeeds_firstPlot hlimit (sendable_plots sinePlot (by simp [plots]))
      fun attributes => ⟨_, rfl, Chart.ownAxes_first (by decide +kernel) rfl⟩
  have hnoise : Succeeds (Rests limit false [] (Feeds place (Chart.OwnAxes .time [sinePlot.axis])))
      (Client.addPlot (some noisePlot)) (Rests limit false [] Pictured) := by
    refine succeeds_nextPlot hlimit (sendable_plots noisePlot (by simp [plots]))
      fun chart hchart => ?_
    obtain ⟨after, hadd⟩ : ∃ after, (chart.configured noisePlot).addPlot = .ok after := by
      refine Chart.addPlot_isOk_iff.mpr fun most hmost => ?_
      have hkind : (chart.configured noisePlot).outline.kind = .time := hchart.kind
      rw [hkind] at hmost
      cases hmost
    exact ⟨after, hadd, hchart.addPlot (by decide +kernel) hadd⟩
  have hvalues : Succeeds (Rests limit false [] Pictured)
      (repeated count fun sample => addValues [signals.sine sample, signals.noise sample])
      (Rests limit false [] Pictured) := by
    refine succeeds_repeat (fun _ => Rests limit false [] Pictured) (fun _ h => h.drained) count
      fun sample hsample => ?_
    refine succeeds_addValues hlimit (List.cons_ne_nil _ _) (Nat.le_refl 2) ?_
      (Chart.updates_ownAxes rfl)
    exact List.forall_mem_cons.mpr ⟨hsignals.sine (Nat.lt_trans hsample hcount),
      List.forall_mem_singleton.mpr (hsignals.noise sample)⟩
  have hkept : Succeeds (Rests limit true [] Pictured) (repeated count fun sample => do
      addTimed 0 (signals.moment sample) (signals.signedNoise sample)
      addTimed 1 (signals.moment sample) (signals.lateNoise sample))
      (Rests limit true (timedLines signals count) Pictured) := by
    refine succeeds_repeat (fun sample => Rests limit true (timedLines signals sample) Pictured)
      (fun _ h => h.drained) count fun sample _ => ?_
    rw [timedLines_succ]
    exact (succeeds_addTimed 0 _ _).bind (succeeds_addTimed 1 _ _)
  have hsent : Succeeds (Rests limit true (timedLines signals count) Pictured) Client.update
      (Rests limit true [] Pictured) :=
    succeeds_update (accepts_timedLines hsignals) (sendable_timedLines hlimit hsignals)
  refine hopened.bind (hsine.bind (hnoise.bind (hvalues.bind ((succeeds_setCaching true).bind
    (hkept.bind ((hsent.holdingBack (succeeds_setCaching false)).imp (fun _ h => h)
      fun client h => ?_))))))
  exact { h with reached := h.reached.imp fun chart hpictured => hpictured.picture }

end Charts

end Demo

end ChartBoard
