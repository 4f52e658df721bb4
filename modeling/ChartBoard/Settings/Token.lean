import ChartBoard.Number.Decimal
import ChartBoard.Text.NameCharacter

/-!
Tokens of a settings document, which is written in JSON5. A lexer goes through the
document character by character; blanks and comments separate tokens and are not kept.
-/

namespace ChartBoard

open Text

/-- A number as it is written. -/
inductive NumberLiteral where
  | integer (negative : Bool) (magnitude : Nat)
  | hexadecimal (magnitude : Nat)
  /-- A number with a point or an exponent. -/
  | decimal (negative : Bool) (value : Decimal)
  | infinity (negative : Bool)
  | notANumber
  /-- A number that has no value because a sign stands where none belongs. -/
  | missigned
deriving DecidableEq

namespace NumberLiteral

/-- A number behind a minus. -/
def negated : NumberLiteral → NumberLiteral
  | integer negative magnitude => integer (!negative) magnitude
  | decimal negative value => decimal (!negative) value
  | infinity negative => infinity (!negative)
  | notANumber => notANumber
  | _ => missigned

/-- A number behind a plus, which belongs to digits only. -/
def affirmed : NumberLiteral → NumberLiteral
  | integer negative magnitude => integer negative magnitude
  | decimal negative value => decimal negative value
  | _ => missigned

end NumberLiteral

/-- A piece of a document. The text of a name or a string is missing where an escape
stands for half of a character alone. -/
inductive Token where
  | leftBrace
  | rightBrace
  | leftBracket
  | rightBracket
  | colon
  | comma
  | number (value : NumberLiteral)
  | string (text : Option String)
  /-- A name, and whether it is written without escapes. -/
  | name (text : Option String) (plain : Bool)
deriving DecidableEq

namespace Lexer

/-- The ends of line of a document. -/
def isLineEnd (c : Char) : Bool :=
  c == '\n' || c == '\r' || c.toNat == 0x2028 || c.toNat == 0x2029

def byteOrderMark : Nat := 0xFEFF

/-- The next-line control is blank everywhere but between tokens. -/
def nextLine : Nat := 0x85

/-- What may stand between tokens besides comments. -/
def isSpace (c : Char) : Bool :=
  (isBlank c && c.toNat != nextLine) || c.toNat == byteOrderMark

/-- Characters of which numbers are made. Next to a number there is always something
else, so a number is as long a run of them as there is. -/
def continuesNumber (c : Char) : Bool := c.isAlphanum || c == '.' || c == '+' || c == '-'

def startsNumber (c : Char) : Bool := c.isDigit || c == '.' || c == '+' || c == '-'

def hexValue? (c : Char) : Option Nat :=
  if c.isDigit then some (c.toNat - '0'.toNat)
  else if 'a' ≤ c ∧ c ≤ 'f' then some (c.toNat - 'a'.toNat + 10)
  else if 'A' ≤ c ∧ c ≤ 'F' then some (c.toNat - 'A'.toNat + 10)
  else none

/-- One or more hexadecimal digits. -/
def hexNumber? (digits : List Char) : Option Nat :=
  if digits.isEmpty then
    none
  else
    digits.foldlM (fun value digit => (hexValue? digit).map (16 * value + ·)) 0

/-- A number has no needless zero in front. -/
def isCanonical : List Char → Bool
  | '0' :: c :: _ => !c.isDigit
  | _ => true

/-- A number without a sign. -/
def readUnsigned? (text : List Char) : Option NumberLiteral :=
  match text with
  | '0' :: 'x' :: digits => (hexNumber? digits).map .hexadecimal
  | '0' :: 'X' :: digits => (hexNumber? digits).map .hexadecimal
  | _ =>
      if text = "Infinity".toList then
        some (.infinity false)
      else if text = "NaN".toList then
        some .notANumber
      else if !isCanonical text then
        none
      else
        match digits? text with
        | some magnitude => some (.integer false magnitude)
        | none => (Decimal.read? text).map (.decimal false)

/-- A number with an optional sign. -/
def readNumber? : List Char → Option NumberLiteral
  | '-' :: text => (readUnsigned? text).map .negated
  | '+' :: text => (readUnsigned? text).map .affirmed
  | text => readUnsigned? text

def isHigh (code : Nat) : Bool := 0xD800 ≤ code && code < 0xDC00

def isLow (code : Nat) : Bool := 0xDC00 ≤ code && code < 0xE000

/-- The character of two halves, whose bits are laid over each other: the bit `0x10000`
is set, and not added to a higher half that has it already. -/
def joined (high low : Nat) : Char :=
  Char.ofNat (((high - 0xD800) <<< 10) ||| (0x10000 + (low - 0xDC00)))

/-- The text of some codes, where two halves of a character are put together; nothing
if there is half a character alone. -/
def textOf? : List Nat → Option (List Char)
  | [] => some []
  | [code] => if isHigh code || isLow code then none else some [Char.ofNat code]
  | code :: next :: codes =>
      if isHigh code then
        if isLow next then (textOf? codes).map (joined code next :: ·) else none
      else if isLow code then
        none
      else
        (textOf? (next :: codes)).map (Char.ofNat code :: ·)

/-- What an escape in a string is read to. -/
inductive Escape where
  | begun
  /-- So many hexadecimal digits are missing of a code. -/
  | code (missing value : Nat)
  /-- The first half of an end of line that the string passes over. -/
  | lineEnd
deriving DecidableEq

/-- Where a lexer stands between two characters. Codes read are listed from the
last. -/
inductive Position where
  | between
  | slash
  | lineComment
  | blockComment (star : Bool)
  | number (text : List Char)
  | string (quote : Char) (codes : List Nat) (escape : Option Escape)
  | name (codes : List Nat) (plain : Bool)
  /-- Within an escape in a name: before its letter, or with digits missing. -/
  | nameEscape (codes : List Nat) (digits : Option (Nat × Nat))
deriving DecidableEq

/-- The code that a letter stands for behind a backslash. -/
def escapedCode (c : Char) : Nat :=
  if c == 'b' then 0x08
  else if c == 'f' then 0x0C
  else if c == 'n' then 0x0A
  else if c == 'r' then 0x0D
  else if c == 't' then 0x09
  else if c == 'v' then 0x0B
  else c.toNat

def isQuote (c : Char) : Bool := c == '"' || c.toNat == 0x27

/-- Begin a token or a comment. -/
def begin? (c : Char) : Option (List Token × Position) :=
  if isSpace c then some ([], .between)
  else if c == '\x7b' then some ([.leftBrace], .between)
  else if c == '\x7d' then some ([.rightBrace], .between)
  else if c == '[' then some ([.leftBracket], .between)
  else if c == ']' then some ([.rightBracket], .between)
  else if c == ':' then some ([.colon], .between)
  else if c == ',' then some ([.comma], .between)
  else if c == '/' then some ([], .slash)
  else if isQuote c then some ([], .string c [] none)
  else if startsNumber c then some ([], .number [c])
  else if startsName c then some ([], .name [c.toNat] true)
  else if c == '\\' then some ([], .nameEscape [] none)
  else none

def stringToken (codes : List Nat) : Token :=
  .string ((textOf? codes.reverse).map String.ofList)

def nameToken (codes : List Nat) (plain : Bool) : Token :=
  .name ((textOf? codes.reverse).map String.ofList) plain

/-- A character of a string outside an escape. -/
def plainInString? (quote : Char) (codes : List Nat) (c : Char) :
    Option (List Token × Position) :=
  if c == quote then some ([stringToken codes], .between)
  else if c == '\\' then some ([], .string quote codes (some .begun))
  else if isLineEnd c then none
  else some ([], .string quote (c.toNat :: codes) none)

/-- A character of an escape in a string. -/
def inEscape? (quote : Char) (codes : List Nat) (escape : Escape) (c : Char) :
    Option (List Token × Position) :=
  match escape with
  | .begun =>
      if c == '0' then some ([], .string quote (0 :: codes) none)
      else if c.isDigit then none
      else if c == 'x' then some ([], .string quote codes (some (.code 2 0)))
      else if c == 'u' then some ([], .string quote codes (some (.code 4 0)))
      else if c == '\r' then some ([], .string quote codes (some .lineEnd))
      else if isLineEnd c then some ([], .string quote codes none)
      else some ([], .string quote (escapedCode c :: codes) none)
  | .code missing value =>
      (hexValue? c).map fun digit =>
        let value := 16 * value + digit
        if missing ≤ 1 then
          ([], .string quote (value :: codes) none)
        else
          ([], .string quote codes (some (.code (missing - 1) value)))
  | .lineEnd =>
      if c == '\n' then some ([], .string quote codes none) else plainInString? quote codes c

/-- Read one character. What ends a number or a name begins something else. -/
def step? (position : Position) (c : Char) : Option (List Token × Position) :=
  match position with
  | .between => begin? c
  | .slash =>
      if c == '/' then some ([], .lineComment)
      else if c == '*' then some ([], .blockComment false)
      else none
  | .lineComment => some ([], if isLineEnd c then .between else .lineComment)
  | .blockComment star =>
      some ([], if star && c == '/' then .between else .blockComment (c == '*'))
  | .number text =>
      if continuesNumber c then
        some ([], .number (c :: text))
      else do
        let number ← readNumber? text.reverse
        let (tokens, position) ← begin? c
        pure (.number number :: tokens, position)
  | .string quote codes none => plainInString? quote codes c
  | .string quote codes (some escape) => inEscape? quote codes escape c
  | .name codes plain =>
      if continuesName c then
        some ([], .name (c.toNat :: codes) plain)
      else if c == '\\' then
        some ([], .nameEscape codes none)
      else
        (begin? c).map fun (tokens, position) => (nameToken codes plain :: tokens, position)
  | .nameEscape codes none => if c == 'u' then some ([], .nameEscape codes (some (4, 0))) else none
  | .nameEscape codes (some (missing, value)) =>
      (hexValue? c).map fun digit =>
        let value := 16 * value + digit
        if missing ≤ 1 then
          ([], .name (value :: codes) false)
        else
          ([], .nameEscape codes (some (missing - 1, value)))

/-- The tokens that end with the document; only between tokens and in a comment of one
line may it end otherwise. -/
def finish? : Position → Option (List Token)
  | .between => some []
  | .lineComment => some []
  | .number text => (readNumber? text.reverse).map fun number => [.number number]
  | .name codes plain => some [nameToken codes plain]
  | _ => none

/-- The tokens of a document from a position on. -/
def scan? (position : Position) : List Char → Option (List Token)
  | [] => finish? position
  | c :: text => do
      let (tokens, position) ← step? position c
      return tokens ++ (← scan? position text)

end Lexer

/-- The tokens of a document. -/
def Token.readAll? (text : List Char) : Option (List Token) := Lexer.scan? .between text

end ChartBoard
