import Mathlib.Data.List.Basic
import ComputeTopology.Text.Numeral

namespace ComputeTopology.Text.Numeral

theorem mem_toDigits {base value : Nat} (several : 1 < base) {c : Char}
    (member : c ∈ Nat.toDigits base value) : ∃ digit < base, c = Nat.digitChar digit := by
  induction value using Nat.strongRecOn with
  | ind value ih =>
      by_cases small : value < base
      · rw [Nat.toDigits_of_lt_base small] at member
        exact ⟨value, small, List.mem_singleton.mp member⟩
      · have large := Nat.le_of_not_lt small
        rw [Nat.toDigits_of_base_le several large] at member
        rcases List.mem_append.mp member with front | last
        · exact ih (value / base) (Nat.div_lt_self (by omega) several) front
        · exact ⟨value % base, Nat.mod_lt _ (by omega), List.mem_singleton.mp last⟩

theorem isDigit_of_mem_decimal {value : Nat} {c : Char} (member : c ∈ Nat.toDigits 10 value) :
    '0' ≤ c ∧ c ≤ '9' := by
  have digit := Nat.isDigit_of_mem_toDigits (by decide) (by decide) member
  simp only [Char.isDigit, Bool.and_eq_true, decide_eq_true_eq] at digit
  exact digit

/-- A character that is no digit is not in a numeral. -/
theorem not_mem_decimal {c : Char} (other : ¬ ('0' ≤ c ∧ c ≤ '9')) (value : Nat) :
    c ∉ (decimal value).toList := by
  rw [decimal, String.toList_ofList]
  exact fun member => other (isDigit_of_mem_decimal member)

theorem head?_decimal (value : Nat) (positive : value ≠ 0) :
    (Nat.toDigits 10 value).head? ≠ some '0' := by
  induction value using Nat.strongRecOn with
  | ind value ih =>
      by_cases small : value < 10
      · rw [Nat.toDigits_of_lt_base small]
        simpa only [List.head?_cons, ne_eq, Option.some.injEq, Nat.digitChar_eq_zero] using positive
      · have split := Nat.toDigits_of_base_le (b := 10) (n := value) (by decide) (by omega)
        have shorter := ih (value / 10) (by omega) (by omega)
        rw [split, List.head?_append]
        cases first : (Nat.toDigits 10 (value / 10)).head? with
        | none => exact absurd (List.head?_eq_none_iff.mp first) Nat.toDigits_ne_nil
        | some c => rwa [first] at shorter

theorem digitValue?_of_isDigit {c : Char} (digit : '0' ≤ c ∧ c ≤ '9') :
    digitValue? 10 c = some (c.toNat - '0'.toNat) := by
  have small : c.toNat - '0'.toNat < 10 := by
    have upper : c.toNat ≤ '9'.toNat := digit.2
    have limit : '9'.toNat = '0'.toNat + 9 := rfl
    omega
  simp only [digitValue?, if_pos digit, Option.filter, small, decide_true, if_true]

theorem foldlM_digits {digits : List Char} (decimal : ∀ c ∈ digits, '0' ≤ c ∧ c ≤ '9') (value : Nat) :
    digits.foldlM (fun value c => (digitValue? 10 c).map (value * 10 + ·)) value =
      some (Nat.ofDigitChars 10 digits value) := by
  induction digits generalizing value with
  | nil => rfl
  | cons c rest ih =>
      obtain ⟨first, others⟩ := List.forall_mem_cons.mp decimal
      rw [List.foldlM_cons, digitValue?_of_isDigit first, Nat.ofDigitChars_cons, Nat.mul_comm 10]
      exact ih others _

theorem magnitude?_decimal (value : Nat) : magnitude? 10 (Nat.toDigits 10 value) = some value := by
  have nonempty : (Nat.toDigits 10 value).isEmpty = false := by
    simpa only [List.isEmpty_eq_false_iff] using Nat.toDigits_ne_nil
  rw [magnitude?, nonempty, if_neg Bool.false_ne_true,
    foldlM_digits (fun _ => isDigit_of_mem_decimal), Nat.ofDigitChars_ten_toDigits]

theorem natural?_decimal (value : Nat) : natural? 10 (Nat.toDigits 10 value) = some value := by
  have read := magnitude?_decimal value
  unfold natural?
  split
  · rename_i digits same
    have member : '+' ∈ Nat.toDigits 10 value := by simp [same]
    exact absurd (isDigit_of_mem_decimal member) (by decide)
  · exact read

theorem decimal_injective {value other : Nat} (same : decimal value = decimal other) :
    value = other := by
  have digits := String.ofList_injective same
  have read := natural?_decimal value
  rw [digits, natural?_decimal] at read
  exact (Option.some.inj read).symm

/-- A word is read back from its decimal numeral. -/
theorem word?_decimal {α : Type} [Word α] (word : α) :
    word? 10 (Nat.toDigits 10 (Word.toNat word)) = some word := by
  rw [word?, natural?_decimal, Option.bind_some, Word.ofNat?_toNat]

theorem isDigit_of_digitValue? {c : Char} {value : Nat} (digit : digitValue? 10 c = some value) :
    '0' ≤ c ∧ c ≤ '9' := by
  simp only [digitValue?, Option.filter_eq_some_iff, decide_eq_true_eq] at digit
  obtain ⟨found, small⟩ := digit
  split at found
  · assumption
  all_goals
    split at found <;> grind

theorem isDigit_of_foldlM {digits : List Char} {start value : Nat}
    (read : digits.foldlM (fun value c => (digitValue? 10 c).map (value * 10 + ·)) start =
      some value) : ∀ c ∈ digits, '0' ≤ c ∧ c ≤ '9' := by
  induction digits generalizing start with
  | nil => simp
  | cons c rest ih =>
      simp only [List.foldlM_cons, Option.bind_eq_bind, Option.bind_eq_some_iff,
        Option.map_eq_some_iff] at read
      obtain ⟨next, ⟨digit, found, rfl⟩, others⟩ := read
      exact List.forall_mem_cons.mpr ⟨isDigit_of_digitValue? found, ih others⟩

theorem digits_of_magnitude? {digits : List Char} {value : Nat}
    (read : magnitude? 10 digits = some value) :
    digits ≠ [] ∧ ∀ c ∈ digits, '0' ≤ c ∧ c ≤ '9' := by
  unfold magnitude? at read
  split at read
  · contradiction
  · rename_i nonempty
    exact ⟨by simpa using nonempty, isDigit_of_foldlM read⟩

/-- A decimal numeral has digits, and a plus sign at most besides. -/
theorem chars_of_natural? {text : List Char} {value : Nat} (read : natural? 10 text = some value) :
    text ≠ [] ∧ ∀ c ∈ text, c = '+' ∨ ('0' ≤ c ∧ c ≤ '9') := by
  unfold natural? at read
  split at read
  · obtain ⟨_, decimal⟩ := digits_of_magnitude? read
    refine ⟨List.cons_ne_nil _ _, List.forall_mem_cons.mpr ⟨.inl rfl, ?_⟩⟩
    exact fun c member => .inr (decimal c member)
  · obtain ⟨nonempty, decimal⟩ := digits_of_magnitude? read
    exact ⟨nonempty, fun c member => .inr (decimal c member)⟩

end ComputeTopology.Text.Numeral
