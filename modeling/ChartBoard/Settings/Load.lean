import ChartBoard.Settings.Basic
import ChartBoard.Settings.Document
import ChartBoard.Text.Utf8

/-!
Settings from a document. What the document does not say keeps its default; names that
mean nothing are passed over. A group of settings is an object, or an array of the
values in their order.
-/

namespace ChartBoard

namespace NumberLiteral

/-- The 64-bit number nearest to what is written. What is written in digits must be
finite, and in hexadecimal digits it must fit 32 bits. -/
def toBinary64? : NumberLiteral → Option Binary64
  | integer negative magnitude => finite? (.ofRatio negative magnitude 1)
  | hexadecimal magnitude =>
      if magnitude < 1 <<< 32 then some (.ofRatio false magnitude 1) else none
  | decimal negative value => finite? (value.toBinary64 negative)
  | infinity negative => some (.infinite negative)
  | notANumber => some .notANumber
  | missigned => none
where
  finite? (value : Binary64) : Option Binary64 := if value.isFinite then some value else none

/-- Whether a number may stand where it is passed over: an integer must fit 64 bits, and
any other number must have a value. -/
def isPassable : NumberLiteral → Bool
  | integer negative magnitude => if negative then magnitude ≤ 1 <<< 63 else magnitude < 1 <<< 63
  | literal => literal.toBinary64?.isSome

end NumberLiteral

namespace Document

mutual

/-- Whether a value may stand where it is passed over. -/
def isPassable : Document → Bool
  | null => true
  | bool _ => true
  | number literal => literal.isPassable
  | string text => text.isSome
  | array items => arePassable items
  | object members => areMembersPassable members

def arePassable : List Document → Bool
  | [] => true
  | item :: items => item.isPassable && arePassable items

def areMembersPassable : List (Option String × Document) → Bool
  | [] => true
  | (name, value) :: members => name.isSome && value.isPassable && areMembersPassable members

end

/-- A number cut to a whole one and moved into the range from zero to `greatest`. -/
def toNat? (greatest : Nat) : Document → Option Nat
  | number literal => literal.toBinary64?.map (Binary64.toNatClamped greatest)
  | _ => none

def toWord16? : Document → Option Nat := toNat? (Text.word16 - 1)

def toWord64? : Document → Option Nat := toNat? (Text.word64 - 1)

def toText? : Document → Option String
  | string text => text
  | _ => none

def toBool? : Document → Option Bool
  | bool value => some value
  | _ => none

/-- One of a group of settings: its name, and how a value of a document is put into the
group. -/
structure Field (group : Type) where
  name : String
  put : Document → group → Option group

/-- Put values into fields one by one; fields without a value are left. -/
def putItems? {group : Type} : List (Field group) → List Document → group → Option group
  | field :: fields, item :: items, settings => do
      putItems? fields items (← field.put item settings)
  | _, _, settings => some settings

/-- Put members into the fields of their names. No field has two values, and what has
the name of no field is passed over. -/
def putMembers? {group : Type} (fields : List (Field group)) :
    List (Option String × Document) → List String → group → Option group
  | [], _, settings => some settings
  | (none, _) :: _, _, _ => none
  | (some name, value) :: members, seen, settings =>
      match fields.find? fun field => field.name == name with
      | none => if value.isPassable then putMembers? fields members seen settings else none
      | some field =>
          if seen.contains name then
            none
          else do
            putMembers? fields members (name :: seen) (← field.put value settings)

/-- A group of settings that starts from its defaults. -/
def toGroup? {group : Type} (fields : List (Field group)) (settings : group) :
    Document → Option group
  | array items => putItems? fields items settings
  | object members => putMembers? fields members [] settings
  | _ => none

def listenFields : List (Field ListenSettings) :=
  [⟨"bind_address", fun d s => do return { s with bindAddress := ← d.toText? }⟩,
    ⟨"base_port", fun d s => do return { s with basePort := ← d.toWord16? }⟩,
    ⟨"max_slots", fun d s => do return { s with slotCount := ← d.toWord64? }⟩,
    ⟨"max_connections_per_slot", fun d s => do return { s with maxConnections := ← d.toWord64? }⟩,
    ⟨"max_line_length", fun d s => do return { s with maxLineLength := ← d.toWord64? }⟩]

def boardFields : List (Field BoardSettings) :=
  [⟨"status_log_capacity", fun d s => do return { s with statusCapacity := ← d.toWord64? }⟩,
    ⟨"status_enabled", fun d s => do return { s with statusEnabled := ← d.toBool? }⟩,
    ⟨"frame_title", fun d s => do return { s with frameTitle := ← d.toText? }⟩]

/-- The name of a format alone, or an object whose first member has its name; what else
the object holds is not looked at. -/
def toLogFormat? : Document → Option LogFormat
  | string text => text.bind LogFormat.ofName?
  | object ((name, _) :: _) => name.bind LogFormat.ofName?
  | _ => none

def logFields : List (Field LogSettings) :=
  [⟨"level", fun d s => do return { s with level := ← d.toText? }⟩,
    ⟨"format", fun d s => do return { s with format := ← d.toLogFormat? }⟩]

def settingsFields : List (Field Settings) :=
  [⟨"server", fun d s => do return { s with listen := ← d.toGroup? listenFields {} }⟩,
    ⟨"surface", fun d s => do return { s with board := ← d.toGroup? boardFields {} }⟩,
    ⟨"logging", fun d s => do return { s with log := ← d.toGroup? logFields {} }⟩]

end Document

/-- Why settings cannot be loaded. -/
inductive LoadFault where
  /-- The bytes are no text, or the text is no document of settings. -/
  | unreadable
  | invalid (fault : SettingsFault)
deriving DecidableEq

namespace LoadFault

def message : LoadFault → String
  | unreadable => "Configuration error: the document cannot be read"
  | invalid fault => "Configuration error: " ++ fault.message

end LoadFault

namespace Settings

/-- The settings that a document gives, whether they are valid or not. -/
def read? (text : List Char) : Option Settings := do
  (← Document.read? text).toGroup? Document.settingsFields {}

/-- Valid settings from the bytes of a file. -/
def load (bytes : List UInt8) : Except LoadFault Settings :=
  match (Utf8.decode? bytes).bind read? with
  | none => .error .unreadable
  | some settings =>
      match settings.fault? with
      | some fault => .error (.invalid fault)
      | none => .ok settings

end Settings

end ChartBoard
