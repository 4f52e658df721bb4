import ChartBoard.Proofs.Client.Lockstep
import ChartBoard.Proofs.Demo.Charts

/-!
The demo from its first line to its last. A client that has just been accepted drives one chart, or
all of them in turn on its one connection. Every line that it sends is accepted, and when it has
come to the end of a chart, the slot shows what the demo of that chart promises
(`Demo.drive_shows_promised_charts`).
-/

namespace ChartBoard

open Connection Client
open Session (Place Stands Feeds)

/-- The charts of a demo, in the order in which they are driven. -/
def DemoKind.charts : DemoKind → List ChartKind
  | single kind => [kind]
  | all => singles

namespace Client

/-- The place of a client that has been accepted to a slot. -/
theorem stands_connected (slot : Nat) (clocks : Nat → Clock) (server : Server) :
    Rests server.maxLineLength false [] (Stands ⟨slot, server.board.slotCount⟩)
      (connected slot clocks server) where
  drained := rfl
  limit := rfl
  caching := rfl
  cache := rfl
  reached := ⟨rfl, rfl, (SharedBoard.consistent_fresh (fun _ : Unit => slot) server.board).sound ()⟩

end Client

namespace Demo

theorem drive_eq {σ : Type} [Link σ] (signals : Signals) (count : Nat) (demo : DemoKind) :
    (drive signals count demo : Call σ Unit) = demo.charts.forM (chart signals count) := by
  cases demo with
  | single kind => simp [drive, DemoKind.charts]
  | all => rfl

section Drive

variable {signals : Signals} {limit : Nat} {place : Place} (hlimit : roomyLimit ≤ limit)
  (hsignals : signals.Writable) {count : Nat} (hcount : count < Text.word64)

include hlimit hsignals hcount

/-- The demo of each chart keeps its promise. -/
theorem succeeds_chart (kind : ChartKind) :
    Succeeds (Rests limit false [] (Stands place)) (chart signals count kind)
      (Rests limit false [] (Feeds place fun chart =>
        Promised signals count kind chart.picture)) := by
  cases kind with
  | time => exact succeeds_time hlimit hsignals hcount
  | bar => exact succeeds_bar hlimit hsignals
  | xy => exact succeeds_xy hlimit hsignals hcount
  | dial => exact succeeds_dial hlimit hsignals

/-- Each chart begins where the one before it has ended. -/
theorem succeeds_charts (kinds : List ChartKind) :
    Succeeds (Rests limit false [] (Stands place)) (kinds.forM (chart signals count))
      (Rests limit false [] (Stands place)) := by
  induction kinds with
  | nil => exact fun client h => ⟨client, accepted_silent h.drained rfl rfl, h⟩
  | cons kind kinds ih =>
      have hfirst : Succeeds (Rests limit false [] (Stands place)) (chart signals count kind)
          (Rests limit false [] (Stands place)) :=
        (succeeds_chart hlimit hsignals hcount kind).imp (fun _ h => h)
          fun client h => { h with reached := h.reached.toStands }
      exact hfirst.bind ih

end Drive

/-- The demo ends with the charts that it promises. Let a client have been accepted to a slot of a
server that takes lines of 4096 bytes, whatever the board shows and whenever the clock is read, and
let the data of the demo be such that sines of finite numbers are finite, and so is the noise, and
that the moments are from the year zero on. Then the client drives any demo of any count, a number
of 64 bits, without an error, and the reply to each of its lines is OK. At the end of each chart on
the way, what is left to do is to drive the later ones, and the slot, if it is there, shows the
chart with its promise kept: over time two plots, each on an axis of its own; ten bars, numbered
from one, with the values of the last round; as many points as the figure has, at least one, those
of the last phase in their order; two needles with the last values, at zero if there were none. -/
theorem drive_shows_promised_charts (peer : String) (slot : Nat) (clocks : Nat → Clock)
    (server : Server) (signals : Signals) (count : Nat) (demo : DemoKind)
    (hlimit : roomyLimit ≤ server.maxLineLength) (hcount : count < Text.word64)
    (hsignals : signals.Writable) :
    let start := connected slot clocks server
    let driven := Client.run (drive signals count demo) start
    ofLink peer ({ link := .accepted slot clocks server } : Recorded ServedLink) = .ok start ∧
    driven.1 = .ok () ∧
    (∃ lines, Recorded.Heard lines start.link driven.2.link ∧
      String.join driven.2.link.sent = wireText lines ∧
      driven.2.link.arrivals =
        start.link.arrivals ++ List.replicate lines.length (.line (wireLine Reply.ok.line))) ∧
    ∀ before kind later, demo.charts = before ++ kind :: later →
      ∃ reached,
        Client.run ((before ++ [kind]).forM (chart signals count)) start = (.ok (), reached) ∧
        Client.run (later.forM (chart signals count)) reached = driven ∧
        (slot < server.board.slotCount → ∃ picture,
          reached.link.link.server.board.picture? slot = some picture ∧
            Promised signals count kind picture) := by
  intro start driven
  have hstart := stands_connected slot clocks server
  refine ⟨ofLink_accepted slot clocks server peer, ?_⟩
  obtain ⟨after, hdriven, -⟩ := succeeds_charts hlimit hsignals hcount demo.charts start hstart
  rw [← drive_eq] at hdriven
  have hrun : driven = (.ok (), after) := hdriven.run
  refine ⟨congrArg Prod.fst hrun, ?_, ?_⟩
  · obtain ⟨lines, hheard, haccepted⟩ := hdriven.heard
    rw [hrun]
    refine ⟨lines, hheard, hheard.sent.trans String.empty_append, hheard.arrivals.trans ?_⟩
    have hreplies : (start.link.link.hear lines).replies = List.replicate lines.length .ok :=
      List.eq_replicate_iff.mpr ⟨length_hearAll _ _ _ _ _, haccepted⟩
    rw [hreplies, List.map_replicate]
  · intro before kind later hcharts
    obtain ⟨middle, hbefore, hmiddle⟩ := succeeds_charts hlimit hsignals hcount before start hstart
    obtain ⟨reached, hkind, hreached⟩ := succeeds_chart hlimit hsignals hcount kind middle hmiddle
    have hpart : Client.run ((before ++ [kind]).forM (chart signals count)) start =
        (.ok (), reached) := by
      have hboth := (hbefore.bind hkind).run
      simpa using hboth
    refine ⟨reached, hpart, ?_, fun hslot => ?_⟩
    · have hwhole : (drive signals count demo : Call (Recorded ServedLink) Unit) =
          (before ++ [kind]).forM (chart signals count) >>= fun _ =>
            later.forM (chart signals count) := by
        rw [drive_eq, hcharts]
        simp
      rw [show driven = Client.run (drive signals count demo) start from rfl, hwhole,
        run_bind_ok hpart]
    · obtain ⟨chart, -, hpromised, hshown⟩ := hreached.reached.chart
      exact ⟨chart.picture, hshown hslot, hpromised⟩

/-- Twelve samples of all charts on one connection: the second of the two rounds of bars stands
there when the points begin, and the last values of the needles in the end. -/
theorem drive_shows_promised_charts_in_turn :
    let moment : Timestamp := ⟨2024, 2, 29, 23, 59, 59, 1999000000, by decide, by decide⟩
    let signals := Signals.ofSeed 1 moment
    let start := connected 0 (fun _ _ => 0) ⟨[], 65536, .create 1 {} none⟩
    let driven := Client.run (drive signals 12 .all) start
    roomyLimit ≤ 65536 ∧ 12 < Text.word64 ∧ signals.Writable ∧ driven.1 = .ok () ∧
    (∃ reached picture style,
      Client.run ([ChartKind.time, .bar].forM (chart signals 12)) start = (.ok (), reached) ∧
        Client.run ([ChartKind.xy, .dial].forM (chart signals 12)) reached = driven ∧
        reached.link.link.server.board.picture? 0 = some picture ∧ picture.kind = .bar ∧
        picture.plots =
          [⟨style, .points ((List.range 10).map fun n => ⟨.ofNat (n + 1), signals.load 1 n⟩)⟩]) ∧
    ∃ picture style style', driven.2.link.link.server.board.picture? 0 = some picture ∧
      picture.plots =
        [⟨style, .value (signals.speed 11)⟩, ⟨style', .value (signals.rpm 11)⟩] := by
  intro moment signals start driven
  have hlimit : roomyLimit ≤ 65536 := by decide
  have hcount : 12 < Text.word64 := by decide
  have hsignals : signals.Writable := Signals.writable_ofSeed 1 (by decide)
  obtain ⟨-, -, -, hends⟩ := drive_shows_promised_charts "" 0 (fun _ _ => 0)
    ⟨[], 65536, .create 1 {} none⟩ signals 12 .all hlimit hcount
    hsignals
  obtain ⟨reached, hreached, hlater, hshown⟩ := hends [.time] .bar [.xy, .dial] rfl
  obtain ⟨picture, hpicture, hkind, style, hplots⟩ := hshown (by decide)
  obtain ⟨atEnd, hwhole, -, hneedles⟩ := hends [.time, .bar, .xy] .dial [] rfl
  obtain ⟨last, hpictured, -, speed, rpm, hvalues⟩ := hneedles (by decide)
  have hend : driven = (.ok (), atEnd) := hwhole
  have hround : lastRound 12 = 1 := by decide
  rw [hround] at hplots
  have hlast : driven.2.link.link.server.board.picture? 0 = some last := by
    rw [hend]
    exact hpictured
  exact ⟨hlimit, hcount, hsignals, congrArg Prod.fst hend,
    ⟨reached, picture, style, hreached, hlater, hpicture, hkind, hplots⟩,
    last, speed, rpm, hlast, hvalues⟩

end Demo

end ChartBoard
