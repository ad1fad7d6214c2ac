import ComputeTopology.Word

/-! # Numerals

A numeral is one or more digits of its base after an optional plus sign, and
nothing else: no blanks, no separators, no prefix. Leading zeros are allowed.
A signed numeral may have a minus sign instead. A numeral whose value does not
fit the wanted word is no numeral of that word.
-/

namespace ComputeTopology.Text.Numeral

/-- The value of a digit, letters of either case standing for ten and up. -/
def digitValue? (base : Nat) (c : Char) : Option Nat :=
  let value? :=
    if '0' ≤ c ∧ c ≤ '9' then some (c.toNat - '0'.toNat)
    else if 'a' ≤ c ∧ c ≤ 'f' then some (c.toNat - 'a'.toNat + 10)
    else if 'A' ≤ c ∧ c ≤ 'F' then some (c.toNat - 'A'.toNat + 10)
    else none
  value?.filter (· < base)

/-- The value of one or more digits. -/
def magnitude? (base : Nat) (digits : List Char) : Option Nat :=
  if digits.isEmpty then none
  else digits.foldlM (fun value c => (digitValue? base c).map (value * base + ·)) 0

/-- The value of a numeral without regard to any width. -/
def natural? (base : Nat) : List Char → Option Nat
  | '+' :: digits => magnitude? base digits
  | digits => magnitude? base digits

/-- The word a numeral of the given base stands for. -/
def word? {α : Type} [Word α] (base : Nat) (text : List Char) : Option α :=
  (natural? base text).bind Word.ofNat?

/-- The value of a decimal numeral with an optional sign. -/
def integer? : List Char → Option Int
  | '-' :: digits => (magnitude? 10 digits).map (fun value => -(value : Int))
  | text => (natural? 10 text).map Int.ofNat

/-- The signed 32-bit number a decimal numeral stands for. -/
def signed32? (text : List Char) : Option Int :=
  (integer? text).filter (fun value => -2147483648 ≤ value ∧ value ≤ 2147483647)

/-- Decimal digits, without leading zeros. -/
def decimal (value : Nat) : String :=
  String.ofList (Nat.toDigits 10 value)

/-- Lower case hexadecimal digits, without leading zeros. -/
def hex (value : Nat) : String :=
  String.ofList (Nat.toDigits 16 value)

/-- Hexadecimal digits with zeros in front up to the given width. -/
def paddedHex (width value : Nat) : String :=
  let digits := Nat.toDigits 16 value
  String.ofList (List.replicate (width - digits.length) '0' ++ digits)

/-- Hexadecimal digits after `0x`. -/
def prefixedHex (value : Nat) : String :=
  "0x" ++ hex value

end ComputeTopology.Text.Numeral
