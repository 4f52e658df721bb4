import ChartBoard.Server.Connection
import ChartBoard.Settings.Arguments
import ChartBoard.Settings.Load
import ChartBoard.Settings.PortPrompt
import ChartBoard.Settings.SavedState
import Std.Time.DateTime.Timestamp

/-!
The command line: settings from the arguments, a settings file and the state of the last
run, and a session for slot 0 over standard input and output.
-/

namespace ChartBoard.Program

def usage : String :=
  "Usage: netplot [OPTIONS]\n\n" ++
    "  -g, --prompt              Prompt for the TCP/IP base port on startup\n" ++
    "  -p, --port <PORT>         TCP/IP base port, used by the first chart (default 9600)\n" ++
    "  -m, --max-charts <COUNT>  Maximum number of charts (default 10)\n" ++
    "  -c, --config <FILE>       Path to a JSON5 configuration file\n" ++
    "      --log-level <LEVEL>   Override log level (trace, debug, info, warn, error)\n" ++
    "  -h, --help                Print help\n" ++
    "  -V, --version             Print version\n"

/-- What is written when the arguments are not carried out. -/
def faultText : ArgumentsFault → String
  | .helpWanted => usage
  | .versionWanted => "netplot " ++ Greeting.version ++ "\n"
  | .unknown => "error: unexpected argument\n"
  | .unwantedValue => "error: an argument takes no value\n"
  | .missingValue => "error: an argument needs a value\n"
  | .invalidValue => "error: invalid value for an argument\n"
  | .repeated => "error: an argument is given more than once\n"

def exitInvalidArguments : UInt32 := 255

def statePath? : IO (Option String) := do
  return (← IO.getEnv "HOME").map fun home => home ++ "/.netplot.cfg"

def readFile? (path : String) : IO (Option (List UInt8)) := do
  try
    return some (← IO.FS.readBinFile path).toList
  catch _ =>
    return none

def loadState : IO SavedState := do
  match ← statePath? with
  | some path => return .ofFile (← readFile? path)
  | none => return {}

def saveState (state : SavedState) : IO Unit := do
  match ← statePath? with
  | some path => IO.FS.writeBinFile path ⟨state.file.toArray⟩
  | none => return

/-- Ask for the base port on the terminal. -/
partial def askPort (default : Nat) : IO (Option Nat) := do
  let input ← IO.getStdin
  let output ← IO.getStdout
  output.putStr (PortPrompt.question default)
  output.flush
  let line ← input.getLine
  if line.isEmpty then
    return none
  let answer := Text.trim line.toList
  match PortPrompt.readAnswer? default answer with
  | some port => return some port
  | none =>
      output.putStr (PortPrompt.rejection answer)
      askPort default

/-- Settings of the file that the arguments name. -/
def loadSettings (arguments : Arguments) : IO Settings := do
  match arguments.settingsFile with
  | none => return {}
  | some path =>
      match Settings.load (← IO.FS.readBinFile path).toList with
      | .ok settings => return settings
      | .error fault => throw (IO.userError fault.message)

/-- The base port that is asked for, if it is to be asked for; nothing if there is no
answer. -/
def chosenPort (arguments : Arguments) (settings : Settings) : IO (Option Nat) := do
  if arguments.prompt && arguments.basePort.isNone then
    let state ← loadState
    let default := (state.basePort.map UInt16.toNat).getD settings.listen.basePort
    match ← askPort default with
    | some port =>
        saveState { state with basePort := some (UInt16.ofNat port) }
        return some port
    | none => return none
  else
    return some settings.listen.basePort

/-- Answer lines until the input ends. -/
partial def converse (limit number : Nat) (session : Session) (board : Board) : IO Unit := do
  let input ← IO.getStdin
  let output ← IO.getStdout
  let line ← input.getLine
  if line.isEmpty then
    return
  let now := (← Std.Time.Timestamp.now).toMillisecondsSinceUnixEpoch.val
  let exchange :=
    Connection.serve limit (fun _ _ => .universal now) number [line.toUTF8.toList] session board
  for reply in exchange.replies do
    output.putStr (Connection.wireLine reply.line)
  output.flush
  converse limit (number + exchange.replies.length) exchange.session exchange.board

def serve (settings : Settings) : IO Unit := do
  let output ← IO.getStdout
  output.putStr (Connection.wireLine Greeting.line)
  output.flush
  converse settings.listen.maxLineLength 0 { slot := 0 }
    (.create settings.listen.slotCount settings.board none)

end ChartBoard.Program

open ChartBoard in
def main (arguments : List String) : IO UInt32 := do
  match Arguments.read arguments with
  | .error fault =>
      let stream ← if fault.isRequest then IO.getStdout else IO.getStderr
      stream.putStr (Program.faultText fault)
      return if fault.isRequest then 0 else Program.exitInvalidArguments
  | .ok arguments =>
      let settings := arguments.applyTo (← Program.loadSettings arguments)
      match ← Program.chosenPort arguments settings with
      | none => return 0
      | some port =>
          let settings := { settings with listen := { settings.listen with basePort := port } }
          match settings.fault? with
          | some fault => throw (IO.userError (LoadFault.invalid fault).message)
          | none =>
              Program.serve settings
              return 0
