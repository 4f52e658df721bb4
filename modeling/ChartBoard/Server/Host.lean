import ChartBoard.Server.Connection
import ChartBoard.Settings.Basic

/-!
A running server: one listener for each slot of the board. A listener accepts
connections up to its limit and turns away what comes beyond; every connection it
accepts has a session of its own, bound to the listener's slot.
-/

namespace ChartBoard

/-- Which ports clients can reach. The server has no say in it. -/
structure Network where
  reaches : Nat → Bool

namespace Network

/-- Every port can be reached. -/
def connected : Network := ⟨fun _ => true⟩

/-- No port can be reached. -/
def disconnected : Network := ⟨fun _ => false⟩

end Network

structure Listener where
  slot : Nat
  port : Nat
  /-- The connections it may still accept. -/
  free : Nat
  /-- A listener that cannot count as many connections as it is to allow has stopped,
  and nothing answers at its port. -/
  stopped : Bool
deriving DecidableEq

namespace Listener

/-- The most connections that a listener can count. -/
def mostCounted : Nat := (1 <<< 61) - 1

def create (maxConnections slot port : Nat) : Listener where
  slot := slot
  port := port
  free := maxConnections
  stopped := mostCounted < maxConnections

end Listener

structure Server where
  listeners : List Listener
  maxLineLength : Nat
  board : Board

/-- A slot has no port. -/
structure NoPort where
  slot : Nat
deriving DecidableEq

def NoPort.message (fault : NoPort) : String :=
  "no TCP/IP port for slot " ++ toString fault.slot

/-- How a server meets a client. -/
inductive Dialed where
  /-- Nothing answers at the port. -/
  | unreachable
  /-- The listener has no connection to spare and hangs up. -/
  | turnedAway
  | accepted (slot : Nat)
deriving DecidableEq

namespace Server

/-- The listener of one slot. -/
def listen (settings : Settings) (slot : Nat) : Except NoPort Listener :=
  match settings.portFor? slot with
  | some port => .ok (.create settings.listen.maxConnections slot port)
  | none => .error ⟨slot⟩

/-- Start a server. Either every slot has a listener or there is no server. -/
def start (settings : Settings) : Except NoPort Server := do
  let listeners ← (List.range settings.listen.slotCount).mapM (listen settings)
  pure {
    listeners := listeners
    maxLineLength := settings.listen.maxLineLength
    board := .create settings.listen.slotCount settings.board none }

/-- A client comes to a port. -/
def dial (network : Network) (port : Nat) (server : Server) : Dialed × Server :=
  match server.listeners.find? fun listener => listener.port == port with
  | none => (.unreachable, server)
  | some listener =>
      if listener.stopped || !network.reaches port then
        (.unreachable, server)
      else if listener.free = 0 then
        (.turnedAway, server)
      else
        let engaged := { listener with free := listener.free - 1 }
        (.accepted listener.slot,
          { server with listeners := server.listeners.set listener.slot engaged })

/-- The connection of a client to a slot has ended. -/
def hangUp (slot : Nat) (server : Server) : Server :=
  { server with
    listeners := server.listeners.modify slot fun listener =>
      { listener with free := listener.free + 1 } }

/-- A client sends all its bytes to a slot, reads to the end and hangs up. The answer
is what it receives. -/
def visit (clocks : Nat → Clock) (slot : Nat) (chunks : Chunks) (server : Server) :
    String × Server :=
  let exchange :=
    Connection.serve server.maxLineLength clocks 0 chunks { slot := slot } server.board
  (Connection.transcript exchange.replies, ({ server with board := exchange.board }).hangUp slot)

end Server

end ChartBoard
