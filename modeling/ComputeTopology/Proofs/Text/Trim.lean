import Mathlib.Data.List.DropRight
import ComputeTopology.Inventory.Agent

namespace ComputeTopology

namespace Text

/-- A text that neither begins nor ends with a blank, and has a beginning. -/
structure Tight (text : List Char) : Prop where
  first : ∃ c rest, text = c :: rest ∧ isBlank c = false
  last : ∃ front c, text = front ++ [c] ∧ isBlank c = false

theorem isBlank_of_isDigit {c : Char} (digit : '0' ≤ c ∧ c ≤ '9') : isBlank c = false := by
  obtain ⟨lower, upper⟩ := digit
  have above : 48 ≤ c.toNat := lower
  have below : c.toNat ≤ 57 := upper
  simp only [isBlank, blankCodePoints, List.contains_eq_mem, List.mem_cons, List.not_mem_nil,
    or_false, decide_eq_false_iff_not]
  omega

theorem trim_eq (text : List Char) :
    trim text = (text.dropWhile isBlank).rdropWhile isBlank := rfl

/-- A blank at the end is dropped. -/
theorem trim_concat {c : Char} (blank : isBlank c = true) (text : List Char) :
    trim (text ++ [c]) = trim text := by
  rw [trim_eq, trim_eq, List.dropWhile_append]
  split
  · rename_i nothing
    simp [List.isEmpty_iff.mp nothing, blank]
  · rw [List.rdropWhile_concat_pos _ _ _ blank]

/-- A blank at the beginning is dropped. -/
theorem trim_cons {c : Char} (blank : isBlank c = true) (text : List Char) :
    trim (c :: text) = trim text := by
  rw [trim_eq, trim_eq, List.dropWhile_cons_of_pos blank]

theorem tight_trim {text : List Char} (nonempty : trim text ≠ []) : Tight (trim text) := by
  rw [trim_eq] at nonempty ⊢
  constructor
  · obtain ⟨c, rest, kept⟩ := List.exists_cons_of_ne_nil nonempty
    obtain ⟨dropped, whole⟩ := List.rdropWhile_prefix isBlank (text.dropWhile isBlank)
    have begins : (text.dropWhile isBlank).head? = some c := by
      rw [← whole, kept]
      rfl
    have first := List.head?_dropWhile_not isBlank text
    rw [begins] at first
    exact ⟨c, rest, kept, first⟩
  · refine ⟨_, _, (List.dropLast_append_getLast nonempty).symm, ?_⟩
    exact Bool.eq_false_iff.mpr (List.rdropWhile_last_not isBlank _ nonempty)

theorem trim_eq_nil_iff {text : List Char} : trim text = [] ↔ allBlank text = true := by
  rw [trim_eq, List.rdropWhile_eq_nil_iff, allBlank, List.all_eq_true]
  constructor
  · intro blank
    refine List.dropWhile_eq_nil_iff.mp (List.eq_nil_iff_forall_not_mem.mpr fun c member => ?_)
    have nonempty := List.ne_nil_of_mem member
    exact List.dropWhile_get_zero_not isBlank text (List.length_pos_iff.mpr nonempty)
      (blank _ (List.get_mem _ _))
  · exact fun blank c member => blank c ((List.dropWhile_sublist _).subset member)

theorem tight_of_unblank {text : List Char} (nonempty : text ≠ [])
    (unblank : ∀ c ∈ text, isBlank c = false) : Tight text where
  first := by
    obtain ⟨c, rest, rfl⟩ := List.exists_cons_of_ne_nil nonempty
    exact ⟨c, rest, rfl, unblank c List.mem_cons_self⟩
  last := ⟨_, _, (List.dropLast_append_getLast nonempty).symm,
    unblank _ (List.getLast_mem nonempty)⟩

namespace Tight

variable {text front back : List Char}

theorem trim_eq_self (tight : Tight text) : trim text = text := by
  obtain ⟨⟨c, rest, begins, first⟩, inside, d, ends, last⟩ := tight
  have front_kept : text.dropWhile isBlank = text := by
    rw [begins, List.dropWhile_cons_of_neg (Bool.eq_false_iff.mp first)]
  rw [trim_eq, front_kept, ends, List.rdropWhile_concat_neg _ _ _ (Bool.eq_false_iff.mp last)]

theorem not_allBlank (tight : Tight text) : allBlank text = false := by
  obtain ⟨⟨c, rest, rfl, first⟩, _⟩ := tight
  simp only [allBlank, List.all_cons, first, Bool.false_and]

/-- What stands between two such texts may be anything. -/
theorem append (begins : Tight front) (between : List Char) (ends : Tight back) :
    Tight (front ++ between ++ back) := by
  obtain ⟨⟨c, rest, rfl, first⟩, _⟩ := begins
  obtain ⟨_, inside, d, rfl, last⟩ := ends
  refine ⟨⟨c, rest ++ between ++ (inside ++ [d]), rfl, first⟩, ?_⟩
  exact ⟨c :: rest ++ between ++ inside, d, by simp only [List.append_assoc], last⟩

end Tight

/-- A text without the blanks at its ends, if anything is left of it. -/
def trimmed? (text : String) : Option String :=
  if allBlank text.toList then none else some (String.ofList (trim text.toList))

theorem trimmed?_eq_some_iff {text trimmed : String} :
    trimmed? text = some trimmed ↔
      allBlank text.toList = false ∧ trimmed.toList = trim text.toList := by
  rw [trimmed?, Option.ite_none_left_eq_some, Bool.not_eq_true, Option.some.injEq,
    ← String.toList_inj, String.toList_ofList, eq_comm (a := trim _)]

theorem ne_empty_of_trimmed? {text trimmed : String} (left : trimmed? text = some trimmed) :
    trimmed ≠ "" := by
  obtain ⟨unblank, chars⟩ := trimmed?_eq_some_iff.mp left
  rintro rfl
  rw [trim_eq_nil_iff.mp chars.symm] at unblank
  contradiction

theorem getD_trimmed? (text : String) :
    (trimmed? text).getD "" = String.ofList (trim text.toList) := by
  unfold trimmed?
  split
  · rename_i blank
    rw [trim_eq_nil_iff.mpr blank]
    rfl
  · rfl

/-- Whether anything is left, and what, can be told from what trimming leaves. -/
theorem trimmed?_congr {text other : String} (same : trim text.toList = trim other.toList) :
    trimmed? text = trimmed? other := by
  have blank : allBlank text.toList = allBlank other.toList := by
    rw [Bool.eq_iff_iff, ← trim_eq_nil_iff, ← trim_eq_nil_iff, same]
  rw [trimmed?, trimmed?, blank, same]

end Text

namespace Agent

/-- A product name that is blank steps back for the generic name, and a generic name that is
    blank is as good as none. -/
theorem displayName_eq (product generic : Option String) :
    displayName product generic =
      ((product.bind Text.trimmed?).or (generic.bind Text.trimmed?)).getD "" := by
  have otherwise : (generic.map (fun name => String.ofList (Text.trim name.toList))).getD "" =
      (generic.bind Text.trimmed?).getD "" := by
    cases generic with
    | none => rfl
    | some name => exact (Text.getD_trimmed? name).symm
  cases product with
  | none => exact otherwise
  | some name =>
      cases blank : Text.allBlank name.toList with
      | true => simpa [displayName, Option.filter_some, Text.trimmed?, blank] using otherwise
      | false => simp [displayName, Option.filter_some, Text.trimmed?, blank]

theorem displayName_of_tight {name : String} (tight : Text.Tight name.toList) (generic : Option String) :
    displayName (some name) generic = name := by
  simp only [displayName, Option.filter_some, tight.not_allBlank, Bool.not_false, if_true,
    Option.some_or, Option.map_some, Option.getD_some, tight.trim_eq_self, String.ofList_toList]

theorem tight_displayName {product generic : Option String}
    (nonempty : displayName product generic ≠ "") :
    Text.Tight (displayName product generic).toList := by
  simp only [displayName] at nonempty ⊢
  generalize (product.filter (fun name => !Text.allBlank name.toList)).or generic = chosen at *
  cases chosen with
  | none => contradiction
  | some name =>
      have kept : Text.trim name.toList ≠ [] := fun dropped =>
        nonempty (by rw [Option.map_some, dropped]; rfl)
      simpa using Text.tight_trim kept

end Agent

end ComputeTopology
