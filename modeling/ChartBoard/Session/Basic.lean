import ChartBoard.Board.Basic
import ChartBoard.Chart.Feed
import ChartBoard.Protocol.Reply

/-!
Sessions. A session interprets the lines of one connection: it chooses a chart, sets
its attributes, initialises it, adds plots and feeds them values, and shows the chart
in its slot of the board. Every line has one reply, and no failure ends a session.
-/

namespace ChartBoard

/-- How far a session has come with its chart. -/
inductive Stage where
  | noType
  | typeSelected
  | configured
  | initialized
  | feeding
deriving DecidableEq, Repr

structure Session where
  slot : Nat
  chart : Option Chart := none
  stage : Stage := .noType
  /-- The generation that the board gave for the picture shown last. -/
  generation : Option Nat := none
deriving DecidableEq

/-- A session and the board after a line, what the display was told, and whether the
line was accepted. -/
structure Turn where
  session : Session
  board : Board
  events : List BoardEvent
  result : Except Refusal Unit

namespace SettingName

/-- The names that are set for a session or for the board and are no attributes of a
chart. -/
def graph : String := "graph"

def grid : String := "grid"

def frameTitle : String := "frame_title"

end SettingName

namespace Session

/-- A turn in which nothing happens but a refusal. -/
def refuse (refusal : Refusal) (session : Session) (board : Board) : Turn :=
  ⟨session, board, [], .error refusal⟩

/-- A turn that changes the session alone. -/
def accept (session : Session) (board : Board) : Turn := ⟨session, board, [], .ok ()⟩

/-- Show the whole chart in the session's slot. -/
def present (chart : Chart) (session : Session) (board : Board) : Turn :=
  let shown := board.attach session.slot chart.picture
  ⟨{ session with chart := some chart.settled, generation := shown.value }, shown.board,
    shown.events, .ok ()⟩

/-- Let the board follow the changes of the chart; if it cannot, show the whole
chart. -/
def publish (chart : Chart) (session : Session) (board : Board) : Turn :=
  match session.generation with
  | none => session.present chart board
  | some generation =>
      let applied := board.apply session.slot generation chart.pending
      if applied.value then
        ⟨{ session with chart := some chart.settled }, applied.board, applied.events, .ok ()⟩
      else
        let shown := session.present chart applied.board
        { shown with events := applied.events ++ shown.events }

/-- Do something with the chart. In a session that feeds its chart, whatever has
been done is published, also when part of it was refused. -/
def withChart (action : Action) (step : Chart → Fed) (session : Session) (board : Board) : Turn :=
  match session.chart with
  | none => session.refuse (.noKind action) board
  | some chart =>
      let fed := step chart
      if session.stage = .feeding then
        { session.publish fed.chart board with result := fed.result }
      else
        ⟨{ session with chart := some fed.chart.settled }, board, [], fed.result⟩

/-- A dimension of the grid is a number from one. -/
def readDimension (text : List Char) : Except LineFault Nat :=
  match (Text.readNat? Text.word64 (Text.trim text)).filter fun n => 0 < n with
  | some n => .ok n
  | none => .error (.notDimension (String.ofList (Text.trim text)))

/-- Rows and columns with a comma between them. -/
def readGrid (value : String) : Except LineFault Grid :=
  match Text.splitFirst? (· == ',') value.toList with
  | none => .error .notGrid
  | some (rows, columns) => do
      let rows ← readDimension rows
      let columns ← readDimension columns
      pure ⟨rows, columns⟩

def setGrid (value : String) (session : Session) (board : Board) : Turn :=
  match readGrid value with
  | .error fault =>
      let line := Keyword.set ++ SettingName.grid ++ "=" ++ value
      session.refuse (.unreadable line fault) board
  | .ok grid =>
      let answered := board.setGrid grid.rows grid.columns
      ⟨session, answered.board, answered.events, answered.value⟩

/-- Choose a kind of chart. The chart before it is given up, and what it shows
stays on the board. -/
def setKind (value : String) (session : Session) (board : Board) : Turn :=
  let name := String.ofList (Text.trim value.toList)
  match ChartKind.ofName? name with
  | none => session.refuse (.unknownKind name) board
  | some kind =>
      ({ session with
        chart := some (.create kind)
        stage := .typeSelected
        generation := none } : Session).accept board

def setAttribute (name value : String) (session : Session) (board : Board) : Turn :=
  match session.chart with
  | none => session.refuse (.noKind .setAttributes) board
  | some chart =>
      match chart.setAttribute name value with
      | .error refusal => session.refuse refusal board
      | .ok chart =>
          let stage := if session.stage = .typeSelected then .configured else session.stage
          ({ session with chart := some chart, stage := stage } : Session).accept board

def set (name value : String) (session : Session) (board : Board) : Turn :=
  if name = SettingName.graph then
    session.setKind value board
  else if name = SettingName.grid then
    session.setGrid value board
  else if name = SettingName.frameTitle then
    let answered := board.setFrameTitle value
    ⟨session, answered.board, answered.events, .ok ()⟩
  else
    session.setAttribute name value board

def init (session : Session) (board : Board) : Turn :=
  match session.chart with
  | none => session.refuse (.noKind .init) board
  | some chart =>
      ({ session with chart := some chart.init, stage := .initialized } : Session).accept board

def addPlot (session : Session) (board : Board) : Turn :=
  match session.chart with
  | none => session.refuse (.noKind .addPlot) board
  | some chart =>
      if session.stage = .initialized || session.stage = .feeding then
        match chart.addPlot with
        | .error refusal => session.refuse refusal board
        | .ok chart => ({ session with stage := .feeding } : Session).present chart board
      else
        session.refuse (.notInitialized .addPlot) board

def feed (clock : Clock) (data : DataLine) (session : Session) (board : Board) : Turn :=
  if session.stage = .feeding then
    session.withChart .addValues (Chart.feed clock data) board
  else
    session.refuse (.notInitialized .addValues) board

/-- Carry out a command. -/
def perform (clock : Clock) (command : Command) (session : Session) (board : Board) : Turn :=
  match command with
  | .comment => session.accept board
  | .set name value => session.set name value board
  | .init => session.init board
  | .addPlot => session.addPlot board
  | .clear index => session.withChart .clearPlot (Chart.attempt (Chart.clear index)) board
  | .replot index => session.withChart .replot (Chart.attempt (Chart.replot index)) board
  | .enableStatus enabled => session.accept (board.setStatusEnabled enabled)
  | .data data => session.feed clock data board

/-- Process one line. -/
def process (clock : Clock) (line : String) (session : Session) (board : Board) : Turn :=
  match Command.read line with
  | .error refusal => session.refuse refusal board
  | .ok command => session.perform clock command board

/-- A line without the ends of line behind it. -/
def withoutLineEnd (line : String) : String :=
  String.ofList (line.toList.reverse.dropWhile fun c => c == '\r' || c == '\n').reverse

def replyTo : Except Refusal Unit → Reply
  | .ok _ => .ok
  | .error refusal => .error refusal.message

/-- A line of the status log, marked with the slot. -/
def statusLine (slot : Nat) (text : String) : String := "[" ++ toString slot ++ "] " ++ text

/-- A reply, with the session, the board and the events of its line. -/
structure Response where
  reply : Reply
  session : Session
  board : Board
  events : List BoardEvent

/-- Process one line and reply to it. Line and reply are written to the status log
together, after the line has taken effect. -/
def respond (clock : Clock) (line : String) (session : Session) (board : Board) : Response :=
  let line := withoutLineEnd line
  let turn := session.process clock line board
  let reply := replyTo turn.result
  let echoed := turn.board.echo
    [statusLine session.slot line, statusLine session.slot reply.line]
  ⟨reply, turn.session, echoed.board, turn.events ++ echoed.events⟩

end Session

end ChartBoard
