import ComputeTopology.Proofs.Text.Decimal

namespace ComputeTopology.Text.Numeral

theorem digitValue?_digitChar {digit : Nat} (small : digit < 16) :
    digitValue? 16 (Nat.digitChar digit) = some digit := by
  decide +revert

theorem digitChar_injective {digit other : Nat} (small : digit < 16) (smallToo : other < 16)
    (same : Nat.digitChar digit = Nat.digitChar other) : digit = other := by
  have value := digitValue?_digitChar small
  rw [same, digitValue?_digitChar smallToo] at value
  exact (Option.some.inj value).symm

/-- Reading goes through zeros in front without a trace. -/
theorem foldlM_zeros (count : Nat) :
    (List.replicate count '0').foldlM
      (fun value c => (digitValue? 16 c).map (value * 16 + ·)) 0 = some 0 := by
  induction count with
  | zero => rfl
  | succ count ih =>
      have zero : digitValue? 16 '0' = some 0 := rfl
      rw [List.replicate_succ, List.foldlM_cons, zero]
      exact ih

theorem foldlM_hexDigits (value : Nat) :
    (Nat.toDigits 16 value).foldlM
      (fun value c => (digitValue? 16 c).map (value * 16 + ·)) 0 = some value := by
  induction value using Nat.strongRecOn with
  | ind value ih =>
      by_cases small : value < 16
      · rw [Nat.toDigits_of_lt_base small, List.foldlM_cons, digitValue?_digitChar small,
          Option.map_some, Nat.zero_mul, Nat.zero_add]
        rfl
      · have large : 16 ≤ value := Nat.le_of_not_lt small
        have front := ih (value / 16) (Nat.div_lt_self (by omega) (by decide))
        have last := digitValue?_digitChar (Nat.mod_lt value (by decide : 0 < 16))
        rw [Nat.toDigits_of_base_le (by decide) large, List.foldlM_append, front]
        simp only [Option.bind_eq_bind, Option.bind_some, List.foldlM_cons, last, Option.map_some,
          List.foldlM_nil, Nat.div_add_mod']
        rfl

/-- A number is read back from its numeral, however wide that is padded. -/
theorem magnitude?_paddedHex (width value : Nat) :
    magnitude? 16 (paddedHex width value).toList = some value := by
  have nonempty : (paddedHex width value).toList.isEmpty = false := by
    simp [paddedHex, Nat.toDigits_ne_nil]
  rw [magnitude?, nonempty, if_neg Bool.false_ne_true, paddedHex, String.toList_ofList,
    List.foldlM_append, foldlM_zeros]
  exact foldlM_hexDigits value

theorem paddedHex_injective {width other : Nat} {value number : Nat}
    (same : paddedHex width value = paddedHex other number) : value = number := by
  have read := magnitude?_paddedHex width value
  rw [same, magnitude?_paddedHex] at read
  exact (Option.some.inj read).symm

theorem hex_eq_paddedHex (value : Nat) : hex value = paddedHex 0 value := by
  rw [hex, paddedHex, Nat.zero_sub, List.replicate_zero, List.nil_append]

theorem hex_injective {value number : Nat} (same : hex value = hex number) : value = number := by
  rw [hex_eq_paddedHex, hex_eq_paddedHex] at same
  exact paddedHex_injective same

theorem toList_hex_of_digit {digit : Nat} (small : digit < 16) :
    (hex digit).toList = [Nat.digitChar digit] := by
  rw [hex, String.toList_ofList, Nat.toDigits_of_lt_base small]

/-- A character that is no digit is not in a numeral. -/
theorem not_mem_paddedHex {c : Char} (other : ∀ digit < 16, c ≠ Nat.digitChar digit)
    (width value : Nat) : c ∉ (paddedHex width value).toList := by
  intro member
  rw [paddedHex, String.toList_ofList] at member
  rcases List.mem_append.mp member with padding | digits
  · exact other 0 (by decide) (List.eq_of_mem_replicate padding)
  · obtain ⟨digit, small, same⟩ := mem_toDigits (by decide) digits
    exact other digit small same

end ComputeTopology.Text.Numeral
