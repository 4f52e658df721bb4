import ChartBoard.Client.Basic
import ChartBoard.Number.Arithmetic

/-!
The demo: every kind of chart, driven by a client with data that vary. The noise in them
and the sine of a number are given from outside; the demo decides what is drawn with them.
-/

namespace ChartBoard

inductive DemoKind where
  | single (kind : ChartKind)
  /-- One chart of each kind. -/
  | all
deriving DecidableEq, Repr

namespace DemoKind

def name : DemoKind → String
  | single kind => kind.name
  | all => "all"

/-- The demos of one chart, in the order of their slots. -/
def singles : List ChartKind := [.time, .bar, .xy, .dial]

def named : List DemoKind := singles.map single ++ [all]

/-- Text in lower case, as far as its letters are ASCII. -/
def lowerCase (text : String) : String := String.ofList (text.toList.map Char.toLower)

/-- The demo of a name. -/
def ofName? (ignoreCase : Bool) (text : String) : Option DemoKind :=
  named.find? fun demo =>
    if ignoreCase then lowerCase demo.name == lowerCase text else demo.name == text

/-- What is said about a name of no demo. -/
def unknownMessage (text : String) : String := "invalid variant: " ++ text

end DemoKind

/-- The data of a demo, sample by sample. -/
structure Signals where
  /-- The sine of a number. -/
  sin : Binary64 → Binary64
  /-- Noise beside a sine wave. -/
  noise : Nat → Binary64
  /-- The moments of the values that carry a timestamp, and two traces of such
  values. -/
  moment : Nat → Timestamp
  signedNoise : Nat → Binary64
  lateNoise : Nat → Binary64
  /-- The bars of each round. -/
  load : (round bar : Nat) → Binary64
  speed : Nat → Binary64
  rpm : Nat → Binary64

namespace Signals

/-- How far the samples of the sine wave are apart. -/
def tenth : Binary64 := .ofRatio false 1 10

/-- A sine wave. -/
def sine (signals : Signals) (sample : Nat) : Binary64 := signals.sin (.ofNat sample * tenth)

/-- A phase of the figure is turned by an eighth against the one before it. -/
def shift (phase : Nat) : Binary64 := .ofNat phase * .pi / .ofNat 4

/-- The part of a whole turn at which a sample of so many points is taken. -/
def turn (points sample : Nat) : Binary64 := .ofNat 2 * .pi * .ofNat sample / .ofNat points

/-- The points of each phase of a figure of so many points: three turns against two. -/
def figure (signals : Signals) (phase points sample : Nat) : Point :=
  ⟨signals.sin (.ofNat 3 * turn points sample + shift phase),
    signals.sin (.ofNat 2 * turn points sample)⟩

end Signals

namespace Demo

variable {σ : Type} [Link σ]

/-- Do something for every number below `count`, in order. -/
def repeated (count : Nat) (call : Nat → Call σ Unit) : Call σ Unit :=
  (List.range count).forM call

def sinePlot : PlotSettings :=
  { PlotSettings.named "Sine" with xAxisName := "Time", yAxisName := "Sine", maxAgeSeconds := 60 }

def noisePlot : PlotSettings :=
  { PlotSettings.named "Noise" with yAxisName := "Noise", lineWidth := 3, maxAgeSeconds := 60 }

/-- Two traces on two axes: first values one by one, then values with timestamps,
kept back and sent together. -/
def time (signals : Signals) (count : Nat) : Call σ Unit := do
  Client.openChart ChartKind.time.name "Time chart, two traces with separate Y axes"
  Client.addPlot (some sinePlot)
  Client.addPlot (some noisePlot)
  repeated count fun sample => Client.addValues [signals.sine sample, signals.noise sample]
  Client.setCaching true
  repeated count fun sample => do
    Client.addTimed 0 (signals.moment sample) (signals.signedNoise sample)
    Client.addTimed 1 (signals.moment sample) (signals.lateNoise sample)
  let sent ← ExceptT.lift (ExceptT.run Client.update)
  Client.setCaching false
  ExceptT.mk (pure sent)

def loadPlot : PlotSettings :=
  { PlotSettings.named "Load" with xAxisName := "Sample", yAxisName := "Value" }

def barCount : Nat := 10

/-- Rounds of ten bars, each drawn over the one before; at least one round. -/
def bar (signals : Signals) (count : Nat) : Call σ Unit := do
  Client.openChart ChartKind.bar.name "Bar chart"
  Client.addPlot (some loadPlot)
  repeated (max 1 ((count + barCount - 1) / barCount)) fun round => do
    repeated barCount fun sample => Client.addValues [signals.load round sample]
    Client.replot 0

def figurePlot : PlotSettings :=
  { PlotSettings.named "Lissajous" with
    xAxisName := "X", yAxisName := "Y", zeroOnX := false, zeroOnY := false }

def phaseCount : Nat := 4

/-- A figure of at least one point, drawn over itself in each phase. -/
def xy (signals : Signals) (count : Nat) : Call σ Unit := do
  Client.openChart ChartKind.xy.name "XY chart, redrawn in place"
  Client.addPlot (some figurePlot)
  let points := max 1 count
  repeated phaseCount fun phase => do
    repeated points fun sample =>
      let p := signals.figure phase points sample
      Client.addPoint ⟨0, p.x, p.y⟩
    Client.replot 0

def speedPlot : PlotSettings :=
  { PlotSettings.named "Speed" with
    autoscale := false, maxScale := .ofNat 200, tickCount := 10 }

def rpmPlot : PlotSettings :=
  { PlotSettings.named "RPM" with
    autoscale := false, maxScale := .ofNat 8000, tickCount := 1000 }

/-- Two needles. -/
def dial (signals : Signals) (count : Nat) : Call σ Unit := do
  Client.openChart ChartKind.dial.name "Dial chart"
  Client.addPlot (some speedPlot)
  Client.addPlot (some rpmPlot)
  repeated count fun sample => Client.addValues [signals.speed sample, signals.rpm sample]

def chart (signals : Signals) (count : Nat) : ChartKind → Call σ Unit
  | .time => time signals count
  | .bar => bar signals count
  | .xy => xy signals count
  | .dial => dial signals count

/-- Drive a demo on one connection; of several charts one after the other. -/
def drive (signals : Signals) (count : Nat) : DemoKind → Call σ Unit
  | .single kind => chart signals count kind
  | .all => DemoKind.singles.forM (chart signals count)

/-- Drive one chart as far as that goes and hang up. -/
def driveAndLeave (signals : Signals) (count : Nat) (kind : ChartKind) : Call σ Unit := do
  let driven ← ExceptT.lift (ExceptT.run (chart signals count kind))
  Client.disconnect
  ExceptT.mk (pure driven)

/-- Connect one client to each of the slots from `slot` on, up to the first that cannot
be reached; slots beyond the last port are left out. -/
def connectEach (network : Network) (clocks : Nat → Clock) (host : String) (port : Nat)
    (server : Server) : List ChartKind →
    Except ClientError (List (Client ServedLink × ChartKind)) × Server
  | [] => (.ok [], server)
  | kind :: kinds =>
      if Settings.greatestPort < port then
        (.ok [], server)
      else
        match Client.connect network clocks host port server with
        | .error error => (.error error, server)
        | .ok client =>
            let (later, server) :=
              connectEach network clocks host (port + 1) client.link.server kinds
            (later.map fun clients => (client, kind) :: clients, server)

/-- Make a call to a server that other clients have used meanwhile. -/
def callAt (server : Server) (client : Client ServedLink) (call : Call ServedLink Unit) :
    Except ClientError Unit × Client ServedLink :=
  Client.run call { client with link := { client.link with server := server } }

/-- Drive every chart to its end, whatever becomes of the others. The first error is the
answer. -/
def driveEach (signals : Signals) (count : Nat) (server : Server) :
    List (Client ServedLink × ChartKind) → Except ClientError Unit × Server
  | [] => (.ok (), server)
  | (client, kind) :: clients =>
      let (first, client) := callAt server client (driveAndLeave signals count kind)
      let (later, server) := driveEach signals count client.link.server clients
      (match first with
        | .error error => .error error
        | .ok _ => later, server)

/-- Lay out the charts of all kinds. -/
def layOut : Call ServedLink Unit := do
  Client.setGrid 2 2
  Client.setFrameTitle "netplot demo"

/-- Run a demo against a server; the charts of all kinds are on consecutive ports. -/
def run (network : Network) (clocks : Nat → Clock) (host : String) (port : Nat)
    (signals : Signals) (count : Nat) (server : Server) :
    DemoKind → Except ClientError Unit × Server
  | .single kind =>
      match Client.connect network clocks host port server with
      | .error error => (.error error, server)
      | .ok client =>
          let (answer, client) := Client.run (driveAndLeave signals count kind) client
          (answer, client.link.server)
  | .all =>
      match connectEach network clocks host port server DemoKind.singles with
      | (.error error, server) => (.error error, server)
      | (.ok [], server) => (.ok (), server)
      | (.ok ((first, kind) :: clients), server) =>
          match callAt server first layOut with
          | (.error error, first) => (.error error, first.link.server)
          | (.ok _, first) =>
              driveEach signals count first.link.server ((first, kind) :: clients)

end Demo

end ChartBoard
