import ChartBoard.Board.Basic

/-!
The settings of a server: where it listens, what it bounds, how its board starts and
what it logs. Slot `n` has the port `n` above the base port. Settings are checked
before they are used; those that pass have a port for every slot.
-/

namespace ChartBoard

/-- Where a server listens and what it bounds. -/
structure ListenSettings where
  bindAddress : String := "0.0.0.0"
  /-- The port of slot 0. -/
  basePort : Nat := 9600
  slotCount : Nat := 10
  /-- The connections that a slot has at one time. -/
  maxConnections : Nat := 64
  /-- The bytes of the longest line accepted, without its newline. -/
  maxLineLength : Nat := 65536
deriving DecidableEq

inductive LogFormat where
  | text
  | json
deriving DecidableEq

namespace LogFormat

def name : LogFormat → String
  | text => "text"
  | json => "json"

def all : List LogFormat := [text, json]

def ofName? (name : String) : Option LogFormat := all.find? fun format => format.name == name

end LogFormat

structure LogSettings where
  level : String := "info"
  format : LogFormat := .text
deriving DecidableEq

structure Settings where
  listen : ListenSettings := {}
  board : BoardSettings := {}
  log : LogSettings := {}
deriving DecidableEq

/-- What makes settings unusable. -/
inductive SettingsFault where
  | noBindAddress
  | noBasePort
  | slotsOutOfRange (given most : Nat)
  | portsExhausted (basePort slotCount lastPort : Nat)
  | noConnections
  | noLineLength
  | noStatusLog
deriving DecidableEq

def SettingsFault.message : SettingsFault → String
  | noBindAddress => "bind_address must not be empty"
  | noBasePort => "base_port must be between 1 and 65535"
  | slotsOutOfRange given most =>
      "max_slots must be between 1 and " ++ toString most ++ ", got " ++ toString given
  | portsExhausted basePort slotCount lastPort =>
      "base_port " ++ toString basePort ++ " with " ++ toString slotCount ++
        " slots would need port " ++ toString lastPort
  | noConnections => "max_connections_per_slot must be greater than 0"
  | noLineLength => "max_line_length must be greater than 0"
  | noStatusLog => "status_log_capacity must be greater than 0"

namespace Settings

/-- The largest number of slots of a server. -/
def mostSlots : Nat := 999

def greatestPort : Nat := Text.word16 - 1

/-- The first fault of settings, if they have one. -/
def fault? (settings : Settings) : Option SettingsFault :=
  let listen := settings.listen
  let lastPort := listen.basePort + listen.slotCount - 1
  if listen.bindAddress.isEmpty then
    some .noBindAddress
  else if listen.basePort = 0 then
    some .noBasePort
  else if listen.slotCount = 0 ∨ mostSlots < listen.slotCount then
    some (.slotsOutOfRange listen.slotCount mostSlots)
  else if greatestPort < lastPort then
    some (.portsExhausted listen.basePort listen.slotCount lastPort)
  else if listen.maxConnections = 0 then
    some .noConnections
  else if listen.maxLineLength = 0 then
    some .noLineLength
  else if settings.board.statusCapacity = 0 then
    some .noStatusLog
  else
    none

def validate (settings : Settings) : Except SettingsFault Unit :=
  match settings.fault? with
  | some fault => .error fault
  | none => .ok ()

/-- The port of a slot, as far as there are ports. -/
def portFor? (settings : Settings) (slot : Nat) : Option Nat :=
  if slot ≤ greatestPort ∧ settings.listen.basePort + slot ≤ greatestPort then
    some (settings.listen.basePort + slot)
  else
    none

end Settings

end ChartBoard
