/-! # Machine words

The platform reports its figures as unsigned words of four widths. `Word`
gathers what reading and calculating need of a width: its size, and the passage
to and from natural numbers, each of which undoes the other below that size.
Arithmetic on reported figures is done on natural numbers and then checked
against the width, so nothing wraps.
-/

namespace ComputeTopology

class Word (α : Type) where
  /-- How many values the width has. -/
  size : Nat
  ofNat : Nat → α
  toNat : α → Nat
  toNat_lt : ∀ word, toNat word < size
  ofNat_toNat : ∀ word, ofNat (toNat word) = word
  toNat_ofNat : ∀ {value}, value < size → toNat (ofNat value) = value

instance : Word UInt8 where
  size := UInt8.size
  ofNat := UInt8.ofNat
  toNat := UInt8.toNat
  toNat_lt := UInt8.toNat_lt_size
  ofNat_toNat _ := UInt8.ofNat_toNat
  toNat_ofNat small := UInt8.toNat_ofNat_of_lt small

instance : Word UInt16 where
  size := UInt16.size
  ofNat := UInt16.ofNat
  toNat := UInt16.toNat
  toNat_lt := UInt16.toNat_lt_size
  ofNat_toNat _ := UInt16.ofNat_toNat
  toNat_ofNat small := UInt16.toNat_ofNat_of_lt small

instance : Word UInt32 where
  size := UInt32.size
  ofNat := UInt32.ofNat
  toNat := UInt32.toNat
  toNat_lt := UInt32.toNat_lt_size
  ofNat_toNat _ := UInt32.ofNat_toNat
  toNat_ofNat small := UInt32.toNat_ofNat_of_lt small

instance : Word UInt64 where
  size := UInt64.size
  ofNat := UInt64.ofNat
  toNat := UInt64.toNat
  toNat_lt := UInt64.toNat_lt_size
  ofNat_toNat _ := UInt64.ofNat_toNat
  toNat_ofNat small := UInt64.toNat_ofNat_of_lt small

namespace Word

variable {α : Type} [Word α]

/-- The word with this value, if the width has one. -/
def ofNat? (value : Nat) : Option α :=
  if value < size α then some (ofNat value) else none

/-- The product, if it fits the width. -/
def times? (left right : α) : Option α :=
  ofNat? (toNat left * toNat right)

@[simp] theorem ofNat?_toNat (word : α) : ofNat? (toNat word) = some word := by
  rw [ofNat?, if_pos (toNat_lt word), ofNat_toNat]

theorem ofNat?_eq_some_iff {value : Nat} {word : α} :
    ofNat? value = some word ↔ toNat word = value := by
  constructor
  · intro found
    unfold ofNat? at found
    split at found
    · rename_i small
      cases found
      exact toNat_ofNat small
    · contradiction
  · rintro rfl
    exact ofNat?_toNat word

/-- The value is kept if the width has it. -/
theorem toNat_ofNat? (value : Nat) :
    (ofNat? value : Option α).map toNat = if value < size α then some value else none := by
  unfold ofNat?
  split
  · rename_i small
    exact congrArg some (toNat_ofNat small)
  · rfl

end Word

end ComputeTopology
