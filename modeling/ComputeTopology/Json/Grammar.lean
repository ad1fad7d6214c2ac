import ComputeTopology.Json.Tree

/-! # The grammar of JSON texts

A text spells a list of tokens if it consists of their lexemes in order, with
any blanks between them. It spells a tree if it spells the tokens that the tree
consists of, and a tree has only one such list. In a string two surrogates that
follow each other, a high one and a low one, stand for one character. Any
other surrogate leaves the string without content.
-/

namespace ComputeTopology.Json

/-- A character of a string, or a value given by four hexadecimal digits. -/
inductive Piece where
  | char (c : Char)
  | unit (value : Nat)
deriving DecidableEq

namespace Piece

inductive Written : Piece → List Char → Prop where
  | plain {c : Char} (notQuote : c ≠ '"') (notBackslash : c ≠ '\\') (printable : 0x20 ≤ c.toNat) :
      Written (.char c) [c]
  | letter {c meant : Char} (escaped : PartialText.escaped? c = some meant) :
      Written (.char meant) ['\\', c]
  | digits {digits : List Char} {value : Nat} (four : digits.length = 4)
      (hexadecimal : Text.Numeral.magnitude? 16 digits = some value) :
      Written (.unit value) ('\\' :: 'u' :: digits)

def isHigh (value : Nat) : Bool :=
  0xd800 ≤ value && value < 0xdc00

def isLow (value : Nat) : Bool :=
  0xdc00 ≤ value && value < 0xe000

/-- The character that a high and a low surrogate stand for. -/
def paired (high low : Nat) : Char :=
  Char.ofNat (0x10000 + (high - 0xd800) * 0x400 + (low - 0xdc00))

/-- The characters that pieces stand for, if no surrogate stays alone. -/
def characters? : List Piece → Option (List Char)
  | [] => some []
  | .char c :: rest => (characters? rest).map (c :: ·)
  | .unit value :: rest =>
      if isHigh value then
        match rest with
        | .unit low :: rest =>
            if isLow low then (characters? rest).map (paired value low :: ·) else none
        | _ => none
      else if isLow value then none
      else (characters? rest).map (Char.ofNat value :: ·)

end Piece

/-- What stands between the quotes of a string. -/
inductive Body : List Piece → List Char → Prop where
  | nil : Body [] []
  | cons {piece : Piece} {front : List Char} {rest : List Piece} {back : List Char}
      (first : piece.Written front) (others : Body rest back) : Body (piece :: rest) (front ++ back)

namespace Token

/-- The lexeme of a token that has only one. -/
def spelling? : Token → Option (List Char)
  | .openObject => some ['\x7b']
  | .closeObject => some ['\x7d']
  | .openArray => some ['[']
  | .closeArray => some [']']
  | .colon => some [':']
  | .comma => some [',']
  | .null => some ['n', 'u', 'l', 'l']
  | .bool true => some ['t', 'r', 'u', 'e']
  | .bool false => some ['f', 'a', 'l', 's', 'e']
  | .number _ => none
  | .text _ => none

inductive Written : Token → List Char → Prop where
  | fixed {token : Token} {lexeme : List Char} (spelled : token.spelling? = some lexeme) :
      Written token lexeme
  | number {lexeme : List Char} (valid : isNumber lexeme = true) : Written (.number lexeme) lexeme
  | text {pieces : List Piece} {body : List Char} (spelled : Body pieces body) :
      Written (.text ((Piece.characters? pieces).map String.ofList)) ('"' :: (body ++ ['"']))

/-- A number goes on as long as its characters do. -/
def EndsBefore : Token → List Char → Prop
  | .number _, c :: _ => isNumberChar c = false
  | _, _ => True

end Token

inductive Lexes : List Char → List Token → Prop where
  | nil : Lexes [] []
  | space {c : Char} {text : List Char} {tokens : List Token} (blank : Token.isSpace c = true)
      (others : Lexes text tokens) : Lexes (c :: text) tokens
  | token {token : Token} {lexeme text : List Char} {tokens : List Token}
      (first : token.Written lexeme) (ends : token.EndsBefore text) (others : Lexes text tokens) :
      Lexes (lexeme ++ text) (token :: tokens)

mutual

def Tree.tokens : Tree → List Token
  | .null => [.null]
  | .bool value => [.bool value]
  | .number lexeme => [.number lexeme]
  | .text content => [.text content]
  | .array items => .openArray :: (itemTokens items ++ [.closeArray])
  | .object members => .openObject :: (memberTokens members ++ [.closeObject])

def itemTokens : List Tree → List Token
  | [] => []
  | [last] => last.tokens
  | first :: second :: rest => first.tokens ++ .comma :: itemTokens (second :: rest)

def memberTokens : List (Option String × Tree) → List Token
  | [] => []
  | [(key, value)] => .text key :: .colon :: value.tokens
  | (key, value) :: second :: rest =>
      .text key :: .colon :: (value.tokens ++ .comma :: memberTokens (second :: rest))

end

/-- A text that holds this tree and nothing else. -/
def Spells (text : List Char) (tree : Tree) : Prop :=
  Lexes text tree.tokens

end ComputeTopology.Json
