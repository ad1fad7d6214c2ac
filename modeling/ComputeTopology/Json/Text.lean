import ComputeTopology.Text.Numeral

/-! # JSON text

Values are written without blanks. In a string the quote, the backslash and the
control characters are escaped, the five that have a letter by that letter, the
others by four hexadecimal digits. Every other character stands for itself.
-/

namespace ComputeTopology.Json

def escape (c : Char) : List Char :=
  match c with
  | '"' => ['\\', '"']
  | '\\' => ['\\', '\\']
  | '\x08' => ['\\', 'b']
  | '\x0c' => ['\\', 'f']
  | '\n' => ['\\', 'n']
  | '\r' => ['\\', 'r']
  | '\t' => ['\\', 't']
  | _ =>
      if c.toNat < 0x20 then ['\\', 'u'] ++ (Text.Numeral.paddedHex 4 c.toNat).toList else [c]

def quote (content : List Char) : List Char :=
  '"' :: content.flatMap escape ++ ['"']

def ofString (content : String) : List Char :=
  quote content.toList

def ofNat (value : Nat) : List Char :=
  (Text.Numeral.decimal value).toList

def ofBool (value : Bool) : List Char :=
  if value then "true".toList else "false".toList

def ofOption {α : Type} (write : α → List Char) : Option α → List Char
  | none => "null".toList
  | some value => write value

/-- Texts with commas between them. -/
def separate : List (List Char) → List Char
  | [] => []
  | [last] => last
  | first :: rest => first ++ ',' :: separate rest

def ofItems (items : List (List Char)) : List Char :=
  '[' :: separate items ++ [']']

def ofMembers (members : List (String × List Char)) : List Char :=
  '\x7b' :: separate (members.map (fun (key, value) => ofString key ++ ':' :: value)) ++ ['\x7d']

end ComputeTopology.Json
