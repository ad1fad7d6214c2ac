import ComputeTopology.Text.Numeral

/-! # JSON tokens

The tokens of a JSON text are found in one pass: a scanner takes the characters
one after another and keeps the tokens found so far and what it is in the middle
of. A number keeps its digits as written, because a reader may care whether it
was written as an integer. A string whose escapes do not pair up their
surrogates is well formed as a token but has no content.
-/

namespace ComputeTopology.Json

inductive Token where
  | openObject
  | closeObject
  | openArray
  | closeArray
  | colon
  | comma
  | null
  | bool (value : Bool)
  | number (lexeme : List Char)
  | text (content : Option String)
deriving DecidableEq

namespace Token

def isDigit (c : Char) : Bool :=
  '0' ≤ c && c ≤ '9'

def isDigits (text : List Char) : Bool :=
  !text.isEmpty && text.all isDigit

/-- Nothing, or an exponent. -/
def isExponent : List Char → Bool
  | [] => true
  | c :: rest =>
      (c == 'e' || c == 'E') &&
        match rest with
        | '+' :: digits => isDigits digits
        | '-' :: digits => isDigits digits
        | digits => isDigits digits

/-- Nothing, a fraction, an exponent, or a fraction and an exponent. -/
def isFraction : List Char → Bool
  | '.' :: rest => !(rest.takeWhile isDigit).isEmpty && isExponent (rest.dropWhile isDigit)
  | rest => isExponent rest

/-- Digits without a leading zero, other than zero itself. -/
def isWhole (digits : List Char) : Bool :=
  digits == ['0'] || (isDigits digits && digits.head? != some '0')

def isNumber (lexeme : List Char) : Bool :=
  let magnitude := match lexeme with
    | '-' :: rest => rest
    | _ => lexeme
  isWhole (magnitude.takeWhile isDigit) && isFraction (magnitude.dropWhile isDigit)

def isNumberChar (c : Char) : Bool :=
  isDigit c || c == '+' || c == '-' || c == '.' || c == 'e' || c == 'E'

def isSpace (c : Char) : Bool :=
  c == ' ' || c == '\t' || c == '\n' || c == '\r'

end Token

/-- Where the scanner stands inside a string. -/
inductive Position where
  | plain
  | escape
  /-- Inside a four digit escape: how many digits are to come, and their value so far. -/
  | unit (left value : Nat)
deriving DecidableEq

structure PartialText where
  /-- The characters so far, last first. -/
  reversed : List Char
  /-- A high surrogate that waits for its low one. -/
  high : Option Nat
  /-- Whether a surrogate stayed alone. -/
  broken : Bool
  position : Position
deriving DecidableEq

namespace PartialText

def start : PartialText where
  reversed := []
  high := none
  broken := false
  position := .plain

/-- A surrogate that still waits stays alone for good. -/
def settle (text : PartialText) : PartialText :=
  { text with high := none, broken := text.broken || text.high.isSome }

def push (text : PartialText) (c : Char) : PartialText :=
  let settled := text.settle
  { settled with reversed := c :: settled.reversed, position := .plain }

/-- Take in the value of a four digit escape. -/
def pushUnit (text : PartialText) (value : Nat) : PartialText :=
  if 0xd800 ≤ value ∧ value < 0xdc00 then
    { text.settle with high := some value, position := .plain }
  else if 0xdc00 ≤ value ∧ value < 0xe000 then
    match text.high with
    | some high =>
        let c := Char.ofNat (0x10000 + (high - 0xd800) * 0x400 + (value - 0xdc00))
        { text with reversed := c :: text.reversed, high := none, position := .plain }
    | none => { text with broken := true, position := .plain }
  else
    text.push (Char.ofNat value)

def escaped? : Char → Option Char
  | '"' => some '"'
  | '\\' => some '\\'
  | '/' => some '/'
  | 'b' => some '\x08'
  | 'f' => some '\x0c'
  | 'n' => some '\n'
  | 'r' => some '\r'
  | 't' => some '\t'
  | _ => none

/-- The content, if every surrogate found its partner. -/
def content (text : PartialText) : Option String :=
  let settled := text.settle
  if settled.broken then none else some (String.ofList settled.reversed.reverse)

end PartialText

/-- What the scanner is in the middle of. -/
inductive Mode where
  | between
  /-- Inside a word: the characters still to come, and the token they complete. -/
  | word (rest : List Char) (token : Token)
  /-- Inside a number: its characters so far, last first. -/
  | number (reversed : List Char)
  | text (text : PartialText)
deriving DecidableEq

/-- The scanner between two characters. -/
structure Scan where
  /-- The tokens found so far, last first. -/
  reversed : List Token
  mode : Mode

namespace Scan

def start : Scan where
  reversed := []
  mode := .between

def emit (scan : Scan) (token : Token) : Scan where
  reversed := token :: scan.reversed
  mode := .between

def enter (scan : Scan) (mode : Mode) : Scan :=
  { scan with mode }

def stepBetween (scan : Scan) (c : Char) : Option Scan :=
  if Token.isSpace c then some (scan.enter .between)
  else if c == '-' || Token.isDigit c then some (scan.enter (.number [c]))
  else match c with
    | '\x7b' => some (scan.emit .openObject)
    | '\x7d' => some (scan.emit .closeObject)
    | '[' => some (scan.emit .openArray)
    | ']' => some (scan.emit .closeArray)
    | ':' => some (scan.emit .colon)
    | ',' => some (scan.emit .comma)
    | '"' => some (scan.enter (.text .start))
    | 't' => some (scan.enter (.word ['r', 'u', 'e'] (.bool true)))
    | 'f' => some (scan.enter (.word ['a', 'l', 's', 'e'] (.bool false)))
    | 'n' => some (scan.enter (.word ['u', 'l', 'l'] .null))
    | _ => none

/-- A character inside a string. Control characters have to be escaped. -/
def stepText (scan : Scan) (text : PartialText) (c : Char) : Option Scan :=
  match text.position with
  | .plain =>
      if c == '"' then some (scan.emit (.text text.content))
      else if c == '\\' then some (scan.enter (.text { text with position := .escape }))
      else if c.toNat < 0x20 then none
      else some (scan.enter (.text (text.push c)))
  | .escape =>
      if c == 'u' then some (scan.enter (.text { text with position := .unit 4 0 }))
      else (PartialText.escaped? c).map (fun meant => scan.enter (.text (text.push meant)))
  | .unit left value =>
      (Text.Numeral.digitValue? 16 c).map fun digit =>
        let next := value * 16 + digit
        if left ≤ 1 then scan.enter (.text (text.pushUnit next))
        else scan.enter (.text { text with position := .unit (left - 1) next })

/-- The number that ends here, if it is one. -/
def endNumber (scan : Scan) (reversed : List Char) : Option Scan :=
  if Token.isNumber reversed.reverse then some (scan.emit (.number reversed.reverse)) else none

def step (scan : Scan) (c : Char) : Option Scan :=
  match scan.mode with
  | .between => scan.stepBetween c
  | .word [] _ => none
  | .word [last] token => if c == last then some (scan.emit token) else none
  | .word (expected :: rest) token =>
      if c == expected then some (scan.enter (.word rest token)) else none
  | .number reversed =>
      if Token.isNumberChar c then some (scan.enter (.number (c :: reversed)))
      else (scan.endNumber reversed).bind (·.stepBetween c)
  | .text text => scan.stepText text c

/-- The tokens found, unless the text ends in the middle of one. -/
def finish (scan : Scan) : Option (List Token) :=
  match scan.mode with
  | .between => some scan.reversed.reverse
  | .number reversed => (scan.endNumber reversed).map (·.reversed.reverse)
  | _ => none

end Scan

def tokens? (text : List Char) : Option (List Token) :=
  (text.foldlM Scan.step Scan.start).bind Scan.finish

end ComputeTopology.Json
