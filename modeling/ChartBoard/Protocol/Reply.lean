import ChartBoard.Number.Decimal

/-!
What a server says: one greeting when a client connects, then one reply to each
line. A greeting names the version of the protocol. A reply is `OK`, or an error
with its message.
-/

namespace ChartBoard

open Text

namespace Greeting

def opening : String := "netplot_version="

def version : String := "1.9"

/-- The greeting, without the end of the line. -/
def line : String := opening ++ version

/-- The version that a greeting names; blanks at the end of the line do not
count. -/
def read? (line : String) : Option Binary64 :=
  (opening.toList.isPrefixOf? (trimEnd line.toList)).bind Binary64.read?

end Greeting

inductive Reply where
  | ok
  | error (message : String)
deriving DecidableEq, Repr

namespace Reply

def errorOpening : String := "ERROR: "

/-- The line that carries a reply. -/
def line : Reply → String
  | ok => "OK"
  | error message => errorOpening ++ message

/-- Whatever is not an error counts as success; blanks at the end of the line do
not count. -/
def read (line : String) : Reply :=
  match errorOpening.toList.isPrefixOf? (trimEnd line.toList) with
  | some message => error (String.ofList message)
  | none => ok

def isOk : Reply → Bool
  | ok => true
  | error _ => false

end Reply

end ChartBoard
