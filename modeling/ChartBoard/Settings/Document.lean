import ChartBoard.Settings.Token

/-!
Settings documents: the values that JSON5 can write. A builder takes the tokens one by
one and keeps the values that are not yet closed on a stack.
-/

namespace ChartBoard

/-- A value in a document. -/
inductive Document where
  | null
  | bool (value : Bool)
  | number (value : NumberLiteral)
  /-- The text is missing where an escape stands for half of a character alone. -/
  | string (text : Option String)
  | array (items : List Document)
  | object (members : List (Option String × Document))

namespace Document

/-- An array or an object that is not yet closed; what it holds is listed from the
last. -/
inductive Frame where
  /-- An array, and whether an item may come. -/
  | items (done : List Document) (ready : Bool)
  /-- An object, and whether a member may come. -/
  | members (done : List (Option String × Document)) (ready : Bool)
  /-- An object whose next member has its name. -/
  | named (done : List (Option String × Document)) (name : Option String)
  /-- An object whose next member has its name and the colon behind it. -/
  | awaiting (done : List (Option String × Document)) (name : Option String)

/-- What has been built of a document: the frames that are open, the innermost first,
and the document itself, once it is complete. -/
structure Builder where
  frames : List Frame := []
  root : Option Document := none

namespace Builder

/-- Add a value that is complete. -/
def value? (value : Document) (builder : Builder) : Option Builder :=
  match builder.frames with
  | [] => if builder.root.isNone then some { builder with root := some value } else none
  | .items done true :: frames =>
      some { builder with frames := .items (value :: done) false :: frames }
  | .awaiting done name :: frames =>
      some { builder with frames := .members ((name, value) :: done) false :: frames }
  | _ => none

/-- Whether a value may come. -/
def ready (builder : Builder) : Bool :=
  match builder.frames with
  | [] => builder.root.isNone
  | .items _ ready :: _ => ready
  | .awaiting _ _ :: _ => true
  | _ => false

def open? (frame : Frame) (builder : Builder) : Option Builder :=
  if builder.ready then
    some { builder with frames := frame :: builder.frames }
  else
    none

/-- The value of a name that stands where a value does. -/
def wordValue? (word : String) : Option Document :=
  if word = "null" then some .null
  else if word = "true" then some (.bool true)
  else if word = "false" then some (.bool false)
  else if word = "Infinity" then some (.number (.infinity false))
  else if word = "NaN" then some (.number .notANumber)
  else none

/-- Take a token. A comma may follow the last item or member. -/
def token? (token : Token) (builder : Builder) : Option Builder :=
  match token, builder.frames with
  | .comma, .items done false :: frames =>
      some { builder with frames := .items done true :: frames }
  | .comma, .members done false :: frames =>
      some { builder with frames := .members done true :: frames }
  | .colon, .named done name :: frames =>
      some { builder with frames := .awaiting done name :: frames }
  | .rightBracket, .items done _ :: frames =>
      value? (.array done.reverse) { builder with frames := frames }
  | .rightBrace, .members done _ :: frames =>
      value? (.object done.reverse) { builder with frames := frames }
  | .name text _, .members done true :: frames =>
      some { builder with frames := .named done text :: frames }
  | .string text, .members done true :: frames =>
      some { builder with frames := .named done text :: frames }
  | .leftBracket, _ => builder.open? (.items [] true)
  | .leftBrace, _ => builder.open? (.members [] true)
  | .number literal, _ => builder.value? (.number literal)
  | .string text, _ => builder.value? (.string text)
  | .name (some word) true, _ => do builder.value? (← wordValue? word)
  | _, _ => none

end Builder

/-- The value that a document writes. -/
def read? (text : List Char) : Option Document := do
  let tokens ← Token.readAll? text
  let builder ← tokens.foldlM (fun builder token => builder.token? token) ({} : Builder)
  if builder.frames.isEmpty then builder.root else none

end Document

end ChartBoard
