import ChartBoard.Server.Host

/-!
Links. A link carries what a client sends to a server and the server's lines back. One
kind of link plays back bytes fixed beforehand, whatever is sent; another leads to a
server that answers.
-/

namespace ChartBoard

/-- What a client comes upon when it waits for a line. -/
inductive Arrival where
  | line (text : String)
  /-- A line that is no text. -/
  | unreadable
  /-- The server has hung up. -/
  | closed
  /-- Nothing more arrives, however long one waits. -/
  | silence
deriving DecidableEq, Repr

/-- What a link does once everything on the way has arrived. -/
inductive LinkEnd where
  | closed
  | silence
deriving DecidableEq, Repr

/-- Bytes on their way to a client. -/
structure Inbox where
  bytes : List UInt8
  ending : LinkEnd
deriving DecidableEq

namespace Inbox

def arrived (line : List UInt8) : Arrival :=
  match Utf8.decode? line with
  | some text => .line (String.ofList text)
  | none => .unreadable

/-- Wait for a line. If the server hangs up within a line, what there is of it arrives
as a line; if it falls silent there, that is lost. -/
def receive (inbox : Inbox) : Arrival × Inbox :=
  match Text.firstLine? inbox.bytes with
  | some (line, behind) => (arrived line, { inbox with bytes := behind })
  | none =>
      match inbox.ending with
      | .silence => (.silence, { inbox with bytes := [] })
      | .closed =>
          if inbox.bytes.isEmpty then
            (.closed, inbox)
          else
            (arrived inbox.bytes, { inbox with bytes := [] })

end Inbox

/-- What a client can do with its link. -/
class Link (link : Type) where
  send : String → link → link
  receive : link → Arrival × link
  close : link → link

/-- A link that plays back fixed bytes. It keeps what is sent, the first text first. -/
structure ScriptedLink where
  inbox : Inbox
  sent : List String := []
  closed : Bool := false
deriving DecidableEq

instance : Link ScriptedLink where
  send text link := { link with sent := link.sent ++ [text] }
  receive link :=
    let (arrival, inbox) := link.inbox.receive
    (arrival, { link with inbox := inbox })
  close link := { link with closed := true }

/-- A link to a server. The server answers at once: its replies are on their way as
soon as something has been sent, and it waits for more. -/
structure ServedLink where
  server : Server
  session : Session
  clocks : Nat → Clock
  /-- The number of lines that have been answered. -/
  answered : Nat := 0
  inbox : Inbox

namespace ServedLink

/-- The link of a client that has been accepted to a slot. -/
def accepted (slot : Nat) (clocks : Nat → Clock) (server : Server) : ServedLink where
  server := server
  session := { slot := slot }
  clocks := clocks
  inbox := ⟨Utf8.encode (Connection.transcript []).toList, .silence⟩

/-- The link of a client that has been turned away. -/
def turnedAway (clocks : Nat → Clock) (server : Server) : ServedLink where
  server := server
  session := { slot := 0 }
  clocks := clocks
  inbox := ⟨[], .closed⟩

/-- The lines of replies as they arrive. -/
def replyBytes (replies : List Reply) : List UInt8 :=
  Utf8.encode (String.join (replies.map fun reply => Connection.wireLine reply.line)).toList

/-- Whatever a client sends ends with a newline, so that the server can answer all of
it. -/
def send (text : String) (link : ServedLink) : ServedLink :=
  let exchange := Connection.serve link.server.maxLineLength link.clocks link.answered
    [Utf8.encode text.toList] link.session link.server.board
  { link with
    server := { link.server with board := exchange.board }
    session := exchange.session
    answered := link.answered + exchange.replies.length
    inbox := { link.inbox with bytes := link.inbox.bytes ++ replyBytes exchange.replies } }

end ServedLink

instance : Link ServedLink where
  send := ServedLink.send
  receive link :=
    let (arrival, inbox) := link.inbox.receive
    (arrival, { link with inbox := inbox })
  close link := { link with server := link.server.hangUp link.session.slot }

end ChartBoard
