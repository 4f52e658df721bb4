import ChartBoard.Server.LineReader
import ChartBoard.Session.Basic
import ChartBoard.Text.Utf8

/-!
Connections. The client is greeted, and then each of its lines has one reply, in order,
until its bytes end. A line that is too long is answered with an error and reaches
neither the session nor the board; bytes that are no text are read leniently.
-/

namespace ChartBoard

/-- What came of some lines of a client: the replies in order, and the session, the
board and the events that the lines left. -/
structure Exchange where
  replies : List Reply
  session : Session
  board : Board
  events : List BoardEvent

namespace Connection

/-- The reply to a line of more than `limit` bytes. -/
def tooLong (limit : Nat) : Reply := .error ("line longer than " ++ toString limit ++ " bytes")

/-- The text of a line that has been read. -/
def lineText (buffer : List UInt8) : String := String.ofList (Utf8.decodeLossy buffer)

/-- Answer every line of the bytes from line number `number` on; the clock of a line is
told by its number. -/
def serve (limit : Nat) (clocks : Nat → Clock) (number : Nat) (chunks : Chunks)
    (session : Session) (board : Board) : Exchange :=
  let reading := LineReader.read limit chunks
  if h : reading.found = .ended then
    ⟨[], session, board, []⟩
  else if reading.found = .tooLong then
    let later := serve limit clocks (number + 1) reading.rest session board
    { later with replies := tooLong limit :: later.replies }
  else
    let response := session.respond (clocks number) (lineText reading.buffer) board
    let later := serve limit clocks (number + 1) reading.rest response.session response.board
    { later with
      replies := response.reply :: later.replies
      events := response.events ++ later.events }
termination_by chunks.bytes.length
decreasing_by all_goals exact LineReader.length_rest_lt h

/-- A line as it goes over the wire. -/
def wireLine (line : String) : String := line ++ "\n"

/-- What a client receives that is greeted and then has these replies. -/
def transcript (replies : List Reply) : String :=
  wireLine Greeting.line ++ String.join (replies.map fun reply => wireLine reply.line)

end Connection

end ChartBoard
