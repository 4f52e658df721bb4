import ChartBoard.Text.Blank
import ChartBoard.Text.Lines
import ChartBoard.Text.Utf8
import ChartBoard.Text.Whole

/-!
Asking for the base port. The question is put until an answer is a port; an empty answer
stands for the default. No more is read than the lines that were answers.
-/

namespace ChartBoard

open Text

/-- How the asking ends. -/
inductive PortAnswer where
  | port (port : Nat)
  /-- The input has ended. -/
  | none
  /-- An answer is no text. -/
  | unreadable
deriving DecidableEq, Repr

/-- What came of the asking: the answer, what was written meanwhile, and how many bytes
of the input were read. -/
structure PortPrompt where
  answer : PortAnswer
  output : String
  consumed : Nat
deriving DecidableEq, Repr

namespace PortPrompt

def question (default : Nat) : String := "TCP/IP base port [" ++ toString default ++ "]: "

def rejection (answer : List Char) : String :=
  String.ofList answer ++
    " is not a valid port number. The port number must be from 1 to 65535\n"

/-- The port that an answer gives. -/
def readAnswer? (default : Nat) (answer : List Char) : Option Nat :=
  if answer.isEmpty then
    some default
  else
    (readNat? word16 answer).filter fun port => port != 0

/-- Ask until a line of the input answers. -/
def askLines (default : Nat) : List (List UInt8) → PortPrompt
  | [] => ⟨.none, question default, 0⟩
  | line :: lines =>
      match Utf8.decode? line with
      | none => ⟨.unreadable, question default, line.length⟩
      | some text =>
          match readAnswer? default (trim text) with
          | some port => ⟨.port port, question default, line.length⟩
          | none =>
              let later := askLines default lines
              { later with
                output := question default ++ rejection (trim text) ++ later.output
                consumed := line.length + later.consumed }

def ask (default : Nat) (input : List UInt8) : PortPrompt := askLines default (cutLines input)

end PortPrompt

end ChartBoard
