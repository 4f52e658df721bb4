import ChartBoard.Client.Link
import ChartBoard.Client.PlotSettings

/-!
Clients. Every call that sends a line waits for its reply. Lines with values may be
kept back, to be sent together; then each of them has a reply, and all are read.
-/

namespace ChartBoard

/-- Why a call of a client fails. -/
inductive ClientError where
  | unreachable (address : String)
  /-- The peer does not greet as a server does. -/
  | notServer (peer received : String)
  /-- The server has refused a line. -/
  | refused (message : String)
  | invalidKind (text : String)
  | closed
  /-- No reply for as long as the client waits. -/
  | silence (milliseconds : Nat)
  /-- The server has sent bytes that are no text. -/
  | unreadable
deriving DecidableEq, Repr

/-- A span of time in its greatest unit from milliseconds to seconds, without zeros at
the end. -/
def spanText (milliseconds : Nat) : String :=
  if milliseconds = 0 then
    "0ns"
  else if milliseconds < 1000 then
    toString milliseconds ++ "ms"
  else
    let thousandths := (toString (1000 + milliseconds % 1000)).toList.drop 1
    let places := (thousandths.reverse.dropWhile (· == '0')).reverse
    let fraction := if places.isEmpty then [] else '.' :: places
    toString (milliseconds / 1000) ++ String.ofList fraction ++ "s"

def ClientError.message : ClientError → String
  | unreachable address => "Failed to connect to " ++ address
  | notServer peer received =>
      peer ++ " is not a netplot server. Received '" ++ received ++ "'"
  | refused message => "Server error: " ++ message
  | invalidKind text => text ++ " is an invalid plot type"
  | closed => "Connection closed by the server"
  | silence milliseconds => "No response from the server within " ++ spanText milliseconds
  | unreadable => "I/O error: stream did not contain valid UTF-8"

structure Client (link : Type) where
  link : link
  /-- The version that the server greeted with. -/
  version : Binary64
  /-- How long to wait for each reply, in milliseconds. -/
  patience : Nat
  caching : Bool := false
  /-- Lines kept back, the oldest first. -/
  cache : List String := []

/-- A call: what it answers or why it fails, and what becomes of the client. -/
abbrev Call (link : Type) : Type → Type := ExceptT ClientError (StateM (Client link))

namespace Client

variable {σ : Type} [Link σ]

/-- Make a call. -/
def run {α : Type} (call : Call σ α) (client : Client σ) : Except ClientError α × Client σ :=
  (ExceptT.run call).run client

/-- Wait for a line; blanks at its end do not count. -/
def readLine : Call σ String := do
  let client ← get
  let (arrival, link) := Link.receive client.link
  set { client with link := link }
  match arrival with
  | .line text => pure (String.ofList (Text.trimEnd text.toList))
  | .unreadable => throw .unreadable
  | .closed => throw .closed
  | .silence => throw (.silence client.patience)

/-- Wait for a reply; the message of an error, if it is one. -/
def readReply : Call σ (Option String) := do
  match Reply.read (← readLine) with
  | .ok => pure none
  | .error message => pure (some message)

/-- Read so many replies, all of them; the first error among them. -/
def readReplies : Nat → Call σ (Option String)
  | 0 => pure none
  | count + 1 => do
      let first ← readReply
      let later ← readReplies count
      pure (first.or later)

/-- Fail if there is an error. -/
def settle : Option String → Call σ Unit
  | none => pure ()
  | some message => throw (.refused message)

def transmit (text : String) : Call σ Unit :=
  modify fun client => { client with link := Link.send text client.link }

/-- Send one line and wait for its reply. -/
def command (line : String) : Call σ Unit := do
  transmit (Connection.wireLine line)
  settle (← readReply)

def assign (name value : String) : Call σ Unit :=
  command (Keyword.set ++ name ++ "=" ++ value)

/-- Send a line with values, or keep it back. -/
def sendData (line : String) : Call σ Unit := do
  let client ← get
  if client.caching then
    set { client with cache := client.cache ++ [line] }
  else
    command line

def defaultPatience : Nat := 30000

/-- The greeting of a server names its version. -/
def greeted (peer : String) : Call σ Unit := do
  let line ← readLine
  match Greeting.read? line with
  | some version => modify fun client => { client with version := version }
  | none => throw (.notServer peer line)

/-- A client for a link on which the server is about to greet. -/
def ofLink (peer : String) (link : σ) : Except ClientError (Client σ) :=
  let (answer, client) := run (greeted peer) ⟨link, .zero, defaultPatience, false, []⟩
  answer.map fun _ => client

def setPatience (milliseconds : Nat) : Call σ Unit :=
  modify fun client => { client with patience := milliseconds }

def setGrid (rows columns : Nat) : Call σ Unit :=
  assign SettingName.grid (toString rows ++ "," ++ toString columns)

def setFrameTitle (title : String) : Call σ Unit := assign SettingName.frameTitle title

def setLegend (enabled : Bool) : Call σ Unit :=
  assign Attribute.enableLegend.name (Attributes.flagText enabled)

/-- Choose the kind of chart by its name. -/
def setKind (name : String) : Call σ Unit :=
  match ChartKind.ofName? name with
  | some kind => assign SettingName.graph kind.name
  | none => throw (.invalidKind name)

def init : Call σ Unit := command Keyword.init

/-- Choose the kind of chart, give it a title unless that is empty, and initialise
it. -/
def openChart (name title : String) : Call σ Unit := do
  setKind name
  if !title.isEmpty then
    assign Attribute.plotTitle.name title
  init

/-- Add a plot, first sending all that is said of it. -/
def addPlot (settings : Option PlotSettings) : Call σ Unit := do
  match settings with
  | some settings => settings.assignments.forM fun (item, value) => assign item.name value
  | none => pure ()
  command Keyword.addPlot

/-- One value for each plot, in the order of the plots. -/
def addValues (values : List Binary64) : Call σ Unit :=
  if values.isEmpty then
    pure ()
  else
    sendData (String.intercalate "," (values.map Binary64.text))

def addPoint (p : PlotPoint) : Call σ Unit :=
  sendData (toString p.plot ++ ":" ++ p.x.text ++ ":" ++ p.y.text)

def addTimed (plot : Nat) (time : Timestamp) (y : Binary64) : Call σ Unit :=
  sendData (toString plot ++ ":" ++ time.text ++ ":" ++ y.text)

def clear (plot : Nat) : Call σ Unit := command (Keyword.clear ++ " " ++ toString plot)

def replot (plot : Nat) : Call σ Unit := command (Keyword.replot ++ " " ++ toString plot)

def enableStatus (enabled : Bool) : Call σ Unit :=
  command (Keyword.enableStatus ++ " " ++ if enabled then "1" else "0")

/-- Whether lines with values are kept back from now on. -/
def setCaching (enabled : Bool) : Call σ Unit :=
  modify fun client => { client with caching := enabled }

/-- Send the lines kept back, in one piece. All replies are read even if one is an
error; the first error is the answer. -/
def update : Call σ Unit := do
  let client ← get
  if client.cache.isEmpty then
    pure ()
  else
    set { client with cache := [] }
    transmit (Connection.wireLine (String.intercalate "\n" client.cache))
    settle (← readReplies client.cache.length)

/-- Hang up. Lines kept back are lost. -/
def disconnect : Call σ Unit :=
  modify fun client => { client with link := Link.close client.link }

/-- The address of a port. -/
def address (host : String) (port : Nat) : String := host ++ ":" ++ toString port

/-- Connect to a port of a server. -/
def connect (network : Network) (clocks : Nat → Clock) (host : String) (port : Nat)
    (server : Server) : Except ClientError (Client ServedLink) :=
  match server.dial network port with
  | (.unreachable, _) => .error (.unreachable (address host port))
  | (.turnedAway, server) => ofLink (address host port) (.turnedAway clocks server)
  | (.accepted slot, server) => ofLink (address host port) (.accepted slot clocks server)

end Client

end ChartBoard
