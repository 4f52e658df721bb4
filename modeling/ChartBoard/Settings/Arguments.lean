import ChartBoard.Settings.Basic

/-!
The arguments of the server's command line: flags and options with one value each, by a
letter behind a dash or a name behind two. Letters may stand together, and the value of
an option may stand in the same argument. Each switch may be given once, and there are
no other arguments.

The value of an option is looked at when the next switch is carried out or the line
ends; an argument that cannot be understood at all is reported before it.
-/

namespace ChartBoard

open Text

/-- What the command line asks for. -/
structure Arguments where
  prompt : Bool := false
  basePort : Option Nat := none
  slotCount : Option Nat := none
  settingsFile : Option String := none
  logLevel : Option String := none
deriving DecidableEq, Repr

/-- Why a command line is not carried out; help and version are asked for. -/
inductive ArgumentsFault where
  | unknown
  | unwantedValue
  | missingValue
  | invalidValue
  | repeated
  | helpWanted
  | versionWanted
deriving DecidableEq, Repr

namespace ArgumentsFault

/-- Whether there is nothing wrong with the command line. -/
def isRequest : ArgumentsFault → Bool
  | helpWanted => true
  | versionWanted => true
  | _ => false

end ArgumentsFault

inductive ArgumentFlag where
  | prompt
  | help
  | version
deriving DecidableEq

inductive ArgumentOption where
  | basePort
  | slotCount
  | settingsFile
  | logLevel
deriving DecidableEq

inductive ArgumentSwitch where
  | flag (flag : ArgumentFlag)
  | option (option : ArgumentOption)
deriving DecidableEq

namespace ArgumentSwitch

def ofLetter? : Char → Option ArgumentSwitch
  | 'g' => some (.flag .prompt)
  | 'h' => some (.flag .help)
  | 'V' => some (.flag .version)
  | 'p' => some (.option .basePort)
  | 'm' => some (.option .slotCount)
  | 'c' => some (.option .settingsFile)
  | _ => none

def names : List (String × ArgumentSwitch) :=
  [("prompt", .flag .prompt), ("help", .flag .help), ("version", .flag .version),
    ("port", .option .basePort), ("max-charts", .option .slotCount),
    ("config", .option .settingsFile), ("log-level", .option .logLevel)]

def ofName? (name : List Char) : Option ArgumentSwitch :=
  (names.find? fun entry => entry.1.toList == name).map Prod.snd

end ArgumentSwitch

namespace Arguments

/-- A number from one to `greatest`. -/
def readCount (greatest : Nat) (text : List Char) : Except ArgumentsFault Nat :=
  match (readInt? (1 <<< 63) text).filter fun n : Int => 1 ≤ n ∧ n ≤ (greatest : Int) with
  | some n => .ok n.toNat
  | none => .error .invalidValue

/-- Give an option its value. -/
def put (option : ArgumentOption) (text : List Char) (arguments : Arguments) :
    Except ArgumentsFault Arguments :=
  match option with
  | .basePort =>
      if arguments.basePort.isSome then
        .error .repeated
      else do
        return { arguments with basePort := some (← readCount Settings.greatestPort text) }
  | .slotCount =>
      if arguments.slotCount.isSome then
        .error .repeated
      else do
        return { arguments with slotCount := some (← readCount Settings.mostSlots text) }
  | .settingsFile =>
      if arguments.settingsFile.isSome then
        .error .repeated
      else if text.isEmpty then
        .error .missingValue
      else
        .ok { arguments with settingsFile := some (String.ofList text) }
  | .logLevel =>
      if arguments.logLevel.isSome then
        .error .repeated
      else
        .ok { arguments with logLevel := some (String.ofList text) }

def raise (flag : ArgumentFlag) (arguments : Arguments) : Except ArgumentsFault Arguments :=
  match flag with
  | .prompt => if arguments.prompt then .error .repeated else .ok { arguments with prompt := true }
  | .help => .error .helpWanted
  | .version => .error .versionWanted

/-- A reader between two arguments: what has been carried out, and the last option, if
its value is still to be looked at or still to come. -/
structure Reader where
  done : Arguments := {}
  pending : Option (ArgumentOption × Option (List Char)) := none

namespace Reader

/-- Look at the value of the last option. -/
def settle (reader : Reader) : Except ArgumentsFault Arguments :=
  match reader.pending with
  | none => .ok reader.done
  | some (_, none) => .error .missingValue
  | some (option, some text) => reader.done.put option text

def raise (flag : ArgumentFlag) (reader : Reader) : Except ArgumentsFault Reader := do
  let done ← reader.settle
  return ⟨← done.raise flag, none⟩

/-- An option whose value is the next argument. -/
def await (option : ArgumentOption) (reader : Reader) : Except ArgumentsFault Reader := do
  return ⟨← reader.settle, some (option, none)⟩

/-- An option together with its value. -/
def assign (option : ArgumentOption) (text : List Char) (reader : Reader) :
    Except ArgumentsFault Reader := do
  let done ← reader.settle
  return ⟨← done.put option text, none⟩

/-- Letters behind one dash. What follows the letter of an option is its value, an equals
sign in front of it left out. -/
def letters : List Char → Reader → Except ArgumentsFault Reader
  | [], reader => .ok reader
  | letter :: rest, reader =>
      match ArgumentSwitch.ofLetter? letter with
      | none => .error .unknown
      | some (.flag flag) => do letters rest (← reader.raise flag)
      | some (.option option) =>
          match rest with
          | [] => reader.await option
          | '=' :: text => reader.assign option text
          | text => reader.assign option text

/-- A name behind two dashes, with a value if there is an equals sign. -/
def name (text : List Char) (reader : Reader) : Except ArgumentsFault Reader :=
  let (name, value) := match splitFirst? (· == '=') text with
    | some (name, value) => (name, some value)
    | none => (text, none)
  match ArgumentSwitch.ofName? name, value with
  | none, _ => .error .unknown
  | some (.flag _), some _ => .error .unwantedValue
  | some (.flag flag), none => reader.raise flag
  | some (.option option), some text => reader.assign option text
  | some (.option option), none => reader.await option

/-- An argument that is no switch is the value that the last option waits for. -/
def value (text : List Char) (reader : Reader) : Except ArgumentsFault Reader :=
  match reader.pending with
  | some (option, none) => .ok { reader with pending := some (option, some text) }
  | _ => .error .unknown

/-- Read arguments to the end. Behind two dashes alone nothing may follow. -/
def readAll : List (List Char) → Reader → Except ArgumentsFault Arguments
  | [], reader => reader.settle
  | ['-', '-'] :: rest, reader => if rest.isEmpty then reader.settle else .error .unknown
  | ('-' :: '-' :: text) :: rest, reader => do readAll rest (← reader.name text)
  | ('-' :: letter :: more) :: rest, reader => do readAll rest (← reader.letters (letter :: more))
  | text :: rest, reader => do readAll rest (← reader.value text)

end Reader

/-- Read a command line, the name of the program not among its arguments. -/
def read (arguments : List String) : Except ArgumentsFault Arguments :=
  Reader.readAll (arguments.map String.toList) {}

/-- Settings with what the command line says in their place. -/
def applyTo (settings : Settings) (arguments : Arguments) : Settings :=
  { settings with
    listen := { settings.listen with
      basePort := arguments.basePort.getD settings.listen.basePort
      slotCount := arguments.slotCount.getD settings.listen.slotCount }
    log := { settings.log with level := arguments.logLevel.getD settings.log.level } }

end Arguments

end ChartBoard
