import Mathlib.Data.List.Forall2
import ComputeTopology.Proofs.Text.Decimal

namespace ComputeTopology.Text.Numeral

/-- A text is a numeral of this value: one or more digits of the base, after a plus sign
    perhaps. -/
def Denotes (base : Nat) (text : List Char) (value : Nat) : Prop :=
  ∃ digits values, (text = digits ∨ text = '+' :: digits) ∧ digits ≠ [] ∧
    List.Forall₂ (fun c digit => digitValue? base c = some digit) digits values ∧
    value = values.foldl (fun value digit => value * base + digit) 0

variable {base value start : Nat} {digits text : List Char}

theorem foldlM_digitValue?_eq_some_iff :
    digits.foldlM (fun value c => (digitValue? base c).map (value * base + ·)) start = some value ↔
      ∃ values, List.Forall₂ (fun c digit => digitValue? base c = some digit) digits values ∧
        value = values.foldl (fun value digit => value * base + digit) start := by
  induction digits generalizing start with
  | nil => simp [eq_comm]
  | cons c rest ih =>
      simp only [List.foldlM_cons, Option.bind_eq_bind, Option.bind_eq_some_iff,
        Option.map_eq_some_iff]
      constructor
      · rintro ⟨_, ⟨digit, found, rfl⟩, others⟩
        obtain ⟨values, read, rfl⟩ := ih.mp others
        exact ⟨digit :: values, .cons found read, rfl⟩
      · rintro ⟨_, read, rfl⟩
        obtain ⟨digit, values, found, others, rfl⟩ := List.forall₂_cons_left_iff.mp read
        exact ⟨_, ⟨digit, found, rfl⟩, ih.mpr ⟨values, others, rfl⟩⟩

theorem magnitude?_eq_some_iff :
    magnitude? base digits = some value ↔
      digits ≠ [] ∧
        ∃ values, List.Forall₂ (fun c digit => digitValue? base c = some digit) digits values ∧
          value = values.foldl (fun value digit => value * base + digit) 0 := by
  unfold magnitude?
  cases digits with
  | nil => simp
  | cons c rest =>
      simp only [List.isEmpty_cons, Bool.false_eq_true, if_false, foldlM_digitValue?_eq_some_iff,
        ne_eq, reduceCtorEq, not_false_eq_true, true_and]

theorem digitValue?_plus (base : Nat) : digitValue? base '+' = none := rfl

theorem natural?_eq_some_iff : natural? base text = some value ↔ Denotes base text value := by
  unfold natural? Denotes
  split
  · rename_i digits
    rw [magnitude?_eq_some_iff]
    constructor
    · rintro ⟨nonempty, values, read, rfl⟩
      exact ⟨digits, values, .inr rfl, nonempty, read, rfl⟩
    · rintro ⟨_, values, rfl | signed, nonempty, read, rfl⟩
      · -- A plus sign is no digit.
        obtain ⟨_, _, digit, _⟩ := List.forall₂_cons_left_iff.mp read
        rw [digitValue?_plus] at digit
        contradiction
      · cases signed
        exact ⟨nonempty, values, read, rfl⟩
  · rename_i unsigned
    rw [magnitude?_eq_some_iff]
    constructor
    · rintro ⟨nonempty, values, read, rfl⟩
      exact ⟨text, values, .inl rfl, nonempty, read, rfl⟩
    · rintro ⟨digits, values, rfl | signed, nonempty, read, rfl⟩
      · exact ⟨nonempty, values, read, rfl⟩
      · exact absurd signed (unsigned digits)

/-- A text is read as a word exactly if it is a numeral of its value. -/
theorem word?_eq_some_iff {α : Type} [Word α] {word : α} :
    word? base text = some word ↔ Denotes base text (Word.toNat word) := by
  simp only [word?, Option.bind_eq_some_iff, Word.ofNat?_eq_some_iff, natural?_eq_some_iff]
  constructor
  · rintro ⟨_, denotes, rfl⟩
    exact denotes
  · exact fun denotes => ⟨_, denotes, rfl⟩

section Decimal

/-- A text is one or more decimal digits after a plus sign perhaps, and they have this value. -/
def IsDecimal (text : List Char) (value : Nat) : Prop :=
  ∃ digits, (text = digits ∨ text = '+' :: digits) ∧ digits ≠ [] ∧
    (∀ c ∈ digits, '0' ≤ c ∧ c ≤ '9') ∧ Nat.ofDigitChars 10 digits 0 = value

theorem magnitude?_ten_eq_some_iff :
    magnitude? 10 digits = some value ↔
      digits ≠ [] ∧ (∀ c ∈ digits, '0' ≤ c ∧ c ≤ '9') ∧ Nat.ofDigitChars 10 digits 0 = value := by
  constructor
  · intro read
    obtain ⟨nonempty, decimal⟩ := digits_of_magnitude? read
    have whole : digits.isEmpty = false := by simpa using nonempty
    rw [magnitude?, whole, if_neg Bool.false_ne_true, foldlM_digits decimal] at read
    exact ⟨nonempty, decimal, Option.some.inj read⟩
  · rintro ⟨nonempty, decimal, amount⟩
    have whole : digits.isEmpty = false := by simpa using nonempty
    rw [magnitude?, whole, if_neg Bool.false_ne_true, foldlM_digits decimal, amount]

theorem denotes_ten_iff : Denotes 10 text value ↔ IsDecimal text value := by
  constructor
  · intro ⟨digits, values, spelled, nonempty, read, amount⟩
    have found := magnitude?_eq_some_iff.mpr ⟨nonempty, values, read, amount⟩
    exact ⟨digits, spelled, magnitude?_ten_eq_some_iff.mp found⟩
  · intro ⟨digits, spelled, decimal⟩
    obtain ⟨nonempty, values, read, amount⟩ :=
      magnitude?_eq_some_iff.mp (magnitude?_ten_eq_some_iff.mpr decimal)
    exact ⟨digits, values, spelled, nonempty, read, amount⟩

theorem IsDecimal.unique {other : Nat} (isDecimal : IsDecimal text value)
    (isOther : IsDecimal text other) : value = other := by
  rw [← denotes_ten_iff, ← natural?_eq_some_iff] at isDecimal isOther
  exact Option.some.inj (isDecimal.symm.trans isOther)

/-- A decimal numeral has no other characters than digits and a plus sign, which stands
    nowhere but in front of digits. -/
theorem exists_isDecimal_iff :
    (∃ value, IsDecimal text value) ↔
      text ≠ [] ∧ (∀ c ∈ text, c = '+' ∨ ('0' ≤ c ∧ c ≤ '9')) ∧
        ∀ front back, text = front ++ '+' :: back → front = [] ∧ back ≠ [] := by
  have unsigned {digits : List Char} (decimal : ∀ c ∈ digits, '0' ≤ c ∧ c ≤ '9')
      (front back : List Char) : digits ≠ front ++ '+' :: back := by
    rintro rfl
    exact absurd (decimal '+' (by simp)) (by decide)
  constructor
  · rintro ⟨_, digits, rfl | rfl, nonempty, decimal, _⟩
    · exact ⟨nonempty, fun c member => .inr (decimal c member),
        fun front back split => absurd split (unsigned decimal front back)⟩
    · refine ⟨List.cons_ne_nil _ _, List.forall_mem_cons.mpr
        ⟨.inl rfl, fun c member => .inr (decimal c member)⟩, fun front back split => ?_⟩
      cases front with
      | nil =>
          obtain rfl := (List.cons.inj split).2
          exact ⟨rfl, nonempty⟩
      | cons c front => exact absurd (List.cons.inj split).2 (unsigned decimal front back)
  · intro ⟨nonempty, chars, placed⟩
    obtain ⟨first, rest, rfl⟩ := List.exists_cons_of_ne_nil nonempty
    obtain ⟨begins, others⟩ := List.forall_mem_cons.mp chars
    -- After the first character there is no plus sign.
    have digits : ∀ c ∈ rest, '0' ≤ c ∧ c ≤ '9' := by
      intro c member
      refine (others c member).resolve_left ?_
      rintro rfl
      obtain ⟨front, back, rfl⟩ := List.append_of_mem member
      exact List.cons_ne_nil _ _ (placed (first :: front) back rfl).1
    rcases begins with rfl | digit
    · exact ⟨_, rest, .inr rfl, (placed [] rest rfl).2, digits, rfl⟩
    · exact ⟨_, first :: rest, .inl rfl, nonempty, List.forall_mem_cons.mpr ⟨digit, digits⟩, rfl⟩

end Decimal

end ComputeTopology.Text.Numeral
