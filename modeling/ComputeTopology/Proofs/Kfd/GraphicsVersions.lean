import ComputeTopology.Kfd.GfxVersion
import ComputeTopology.Proofs.Text.Hexadecimal
import ComputeTopology.Proofs.Text.Numerals
import ComputeTopology.Proofs.Text.Pieces
import ComputeTopology.Proofs.Text.Trim

namespace ComputeTopology.Kfd.GfxVersion

variable {version : GfxVersion} {text : String}

/-- Apart from blanks at its ends, a text writes a version as its three numbers with points
    between them. -/
def IsWritten (version : GfxVersion) (text : String) : Prop :=
  ∃ major minor stepping,
    Text.trim text.toList = major ++ '.' :: (minor ++ '.' :: stepping) ∧
      Text.Numeral.Denotes 10 major (Word.toNat version.major) ∧
      Text.Numeral.Denotes 10 minor (Word.toNat version.minor) ∧
      Text.Numeral.Denotes 10 stepping (Word.toNat version.stepping)

theorem point_not_mem {numeral : List Char} {value : Nat}
    (denotes : Text.Numeral.Denotes 10 numeral value) : '.' ∉ numeral := by
  intro point
  have chars := (Text.Numeral.chars_of_natural? (Text.Numeral.natural?_eq_some_iff.mpr denotes)).2
  exact absurd (chars '.' point) (by decide)

/-- An override is taken exactly if its text writes a version, and then for that version. -/
theorem ofOverride?_eq_some_iff : ofOverride? text = some version ↔ version.IsWritten text := by
  obtain ⟨first, second, third⟩ := version
  unfold ofOverride? IsWritten
  constructor
  · intro found
    split at found
    · rename_i major minor stepping cut
      obtain ⟨whole, _⟩ := (Text.split_eq_iff (List.cons_ne_nil _ _)).mp cut
      simp only [bind_pure_comp, Option.bind_eq_bind, Option.bind_eq_some_iff, Option.map_eq_map,
        Option.map_eq_some_iff, Text.Numeral.word?_eq_some_iff, mk.injEq] at found
      obtain ⟨_, isMajor, _, isMinor, _, isStepping, rfl, rfl, rfl⟩ := found
      exact ⟨major, minor, stepping, by simpa using whole, isMajor, isMinor, isStepping⟩
    · contradiction
  · intro ⟨major, minor, stepping, whole, isMajor, isMinor, isStepping⟩
    have cut : Text.split (· == '.') (Text.trim text.toList) = [major, minor, stepping] := by
      refine (Text.split_eq_iff (List.cons_ne_nil _ _)).mpr ⟨by simpa using whole, ?_⟩
      simp [point_not_mem isMajor, point_not_mem isMinor, point_not_mem isStepping]
    rw [cut]
    simp [Text.Numeral.word?_eq_some_iff.mpr isMajor, Text.Numeral.word?_eq_some_iff.mpr isMinor,
      Text.Numeral.word?_eq_some_iff.mpr isStepping]

section Parts

open Text.Numeral (IsDecimal decimal)

/-- What stands between the points of an override. -/
def parts (text : String) : List (List Char) :=
  (Text.trim text.toList).splitOn '.'

def numbers (version : GfxVersion) : List Nat :=
  [version.major.toNat, version.minor.toNat, version.stepping.toNat]

/-- A version in the form of an override. -/
def written (version : GfxVersion) : String :=
  decimal version.major.toNat ++ "." ++ decimal version.minor.toNat ++ "." ++
    decimal version.stepping.toNat

/-- What is wrong with a text that writes no version. -/
inductive Fault (text : String) : Prop where
  | blank {c : Char} (inside : c ∈ Text.trim text.toList) (blank : Text.isBlank c = true)
  | foreign {c : Char} (inside : c ∈ Text.trim text.toList) (noPoint : c ≠ '.') (noPlus : c ≠ '+')
      (noDigit : ¬('0' ≤ c ∧ c ≤ '9'))
  | count (other : (parts text).length ≠ 3)
  | empty (part : [] ∈ parts text)
  /-- A plus sign that does not stand in front of digits. -/
  | sign {front back : List Char} (part : front ++ '+' :: back ∈ parts text)
      (misplaced : front ≠ [] ∨ back = [])
  | large {part : List Char} {value : Nat} (member : part ∈ parts text)
      (isDecimal : IsDecimal part value) (large : UInt32.size ≤ value)

theorem parts_eq (text : String) : parts text = Text.split (· == '.') (Text.trim text.toList) := by
  rw [parts, List.splitOn_eq_splitOnP, Text.split_eq_splitOnP]

theorem three_of_numerals (numerals : List.Forall₂ IsDecimal (parts text) version.numbers) :
    ∃ major minor stepping, parts text = [major, minor, stepping] ∧
      IsDecimal major version.major.toNat ∧ IsDecimal minor version.minor.toNat ∧
      IsDecimal stepping version.stepping.toNat := by
  unfold numbers at numerals
  generalize parts text = pieces at numerals ⊢
  rcases numerals with _ | ⟨isMajor, _ | ⟨isMinor, _ | ⟨isStepping, _ | _⟩⟩⟩
  exact ⟨_, _, _, rfl, isMajor, isMinor, isStepping⟩

theorem isWritten_iff :
    version.IsWritten text ↔ List.Forall₂ IsDecimal (parts text) version.numbers := by
  simp only [IsWritten, Text.Numeral.denotes_ten_iff]
  constructor
  · intro ⟨major, minor, stepping, whole, isMajor, isMinor, isStepping⟩
    have cut : parts text = [major, minor, stepping] := by
      simp only [← Text.Numeral.denotes_ten_iff] at isMajor isMinor isStepping
      rw [parts_eq, Text.split_eq_iff (List.cons_ne_nil _ _)]
      refine ⟨by simpa using whole, ?_⟩
      simp [point_not_mem isMajor, point_not_mem isMinor, point_not_mem isStepping]
    rw [cut]
    exact .cons isMajor (.cons isMinor (.cons isStepping .nil))
  · intro numerals
    obtain ⟨major, minor, stepping, cut, isMajor, isMinor, isStepping⟩ := three_of_numerals numerals
    rw [parts_eq, Text.split_eq_iff (List.cons_ne_nil _ _)] at cut
    exact ⟨major, minor, stepping, by simpa using cut.1, isMajor, isMinor, isStepping⟩

/-- A text writes some version if it has three parts and each of them is a numeral of a number
    with 32 bits. -/
theorem exists_isWritten_iff :
    (∃ version, IsWritten version text) ↔
      (parts text).length = 3 ∧
        ∀ part ∈ parts text, ∃ number : UInt32, IsDecimal part number.toNat := by
  simp only [isWritten_iff]
  constructor
  · intro ⟨version, numerals⟩
    obtain ⟨major, minor, stepping, cut, isMajor, isMinor, isStepping⟩ := three_of_numerals numerals
    rw [cut]
    exact ⟨rfl, by simpa using ⟨⟨_, isMajor⟩, ⟨_, isMinor⟩, ⟨_, isStepping⟩⟩⟩
  · intro ⟨three, each⟩
    obtain ⟨major, minor, stepping, cut⟩ := List.length_eq_three.mp three
    rw [cut] at each ⊢
    obtain ⟨⟨first, isMajor⟩, ⟨second, isMinor⟩, ⟨third, isStepping⟩⟩ := by simpa using each
    exact ⟨⟨first, second, third⟩, .cons isMajor (.cons isMinor (.cons isStepping .nil))⟩

/-- The characters of an override are those of its parts, and points. -/
theorem mem_parts_of_mem {c : Char} (inside : c ∈ Text.trim text.toList) :
    c = '.' ∨ ∃ part ∈ parts text, c ∈ part := by
  simpa [parts_eq] using @Text.mem_split_of_mem (· == '.') c _ inside

theorem chars_of_mem_parts {part : List Char} (member : part ∈ parts text) :
    ∀ c ∈ part, c ∈ Text.trim text.toList ∧ c ≠ '.' := by
  intro c inside
  rw [parts_eq] at member
  simpa using Text.chars_of_mem_split _ part member c inside

theorem fault_of_unwritten (unwritten : ¬∃ version, IsWritten version text) : Fault text := by
  rw [exists_isWritten_iff] at unwritten
  by_contra faultless
  refine unwritten ⟨not_not.mp fun other => faultless (.count other), fun part member => ?_⟩
  have spelled : ∃ value, IsDecimal part value := by
    refine Text.Numeral.exists_isDecimal_iff.mpr ⟨fun empty => ?_, fun c inside => ?_,
      fun front back split => ?_⟩
    · exact faultless (.empty (empty ▸ member))
    · obtain ⟨whole, noPoint⟩ := chars_of_mem_parts member c inside
      by_contra other
      obtain ⟨noPlus, noDigit⟩ := not_or.mp other
      exact faultless (.foreign whole noPoint noPlus noDigit)
    · by_contra other
      exact faultless (.sign (split ▸ member) (by tauto))
  obtain ⟨value, isDecimal⟩ := spelled
  have fits : value < UInt32.size := by
    by_contra large
    exact faultless (.large member isDecimal (Nat.le_of_not_lt large))
  exact ⟨.ofNat value, by rwa [UInt32.toNat_ofNat_of_lt' fits]⟩

theorem unwritten_of_fault (fault : Fault text) : ¬∃ version, IsWritten version text := by
  rw [exists_isWritten_iff]
  intro ⟨three, each⟩
  have spelled {part : List Char} (member : part ∈ parts text) :=
    (each part member).elim fun number isDecimal =>
      Text.Numeral.exists_isDecimal_iff.mp ⟨number.toNat, isDecimal⟩
  have chars {c : Char} (inside : c ∈ Text.trim text.toList) :
      c = '.' ∨ c = '+' ∨ ('0' ≤ c ∧ c ≤ '9') := by
    obtain point | ⟨part, member, inside⟩ := mem_parts_of_mem inside
    · exact .inl point
    · exact .inr ((spelled member).2.1 c inside)
  cases fault with
  | blank inside blank =>
      rcases chars inside with rfl | rfl | digit
      · exact absurd blank (by decide)
      · exact absurd blank (by decide)
      · rw [Text.isBlank_of_isDigit digit] at blank
        contradiction
  | foreign inside noPoint noPlus noDigit =>
      rcases chars inside with point | plus | digit
      · exact noPoint point
      · exact noPlus plus
      · exact noDigit digit
  | count other => exact other three
  | empty part => exact (spelled part).1 rfl
  | sign part misplaced =>
      obtain ⟨first, digits⟩ := (spelled part).2.2 _ _ rfl
      exact misplaced.elim (· first) digits
  | large member isDecimal large =>
      obtain ⟨number, isNumber⟩ := each _ member
      rw [isDecimal.unique isNumber] at large
      exact absurd number.toNat_lt_size (Nat.not_lt_of_le large)

theorem ofOverride?_eq_none_iff : ofOverride? text = none ↔ Fault text := by
  rw [Option.eq_none_iff_forall_ne_some]
  simp only [ne_eq, ofOverride?_eq_some_iff, ← not_exists]
  exact ⟨fault_of_unwritten, unwritten_of_fault⟩

theorem isWritten_written (version : GfxVersion) : version.IsWritten version.written := by
  have denotes (value : Nat) : Text.Numeral.Denotes 10 (decimal value).toList value := by
    rw [decimal, String.toList_ofList, ← Text.Numeral.natural?_eq_some_iff]
    exact Text.Numeral.natural?_decimal value
  have whole : version.written.toList =
      (decimal version.major.toNat).toList ++ '.' ::
        ((decimal version.minor.toNat).toList ++ '.' :: (decimal version.stepping.toNat).toList) := by
    simp [written]
  have unblank : ∀ c ∈ version.written.toList, Text.isBlank c = false := by
    have digits (value : Nat) : ∀ c ∈ (decimal value).toList, Text.isBlank c = false := by
      intro c member
      rw [decimal, String.toList_ofList] at member
      exact Text.isBlank_of_isDigit (Text.Numeral.isDigit_of_mem_decimal member)
    have point : Text.isBlank '.' = false := by decide
    simp only [whole, List.forall_mem_append, List.forall_mem_cons]
    exact ⟨digits _, point, digits _, point, digits _⟩
  have tight := Text.tight_of_unblank (by simp [whole]) unblank
  exact ⟨_, _, _, tight.trim_eq_self.trans whole, denotes _, denotes _, denotes _⟩

/-- Apart from blanks at its ends, a text that overrides a version has three parts between its
    points, and they are numerals of the version's three numbers. Any other text has a fault and
    is refused. So a version is read back from its numbers with points between them. -/
theorem overrides_are_three_numerals :
    (∀ text version, ofOverride? text = some version ↔
        List.Forall₂ IsDecimal (parts text) version.numbers) ∧
      (∀ text, ofOverride? text = none ↔ Fault text) ∧
      ∀ version, ofOverride? version.written = some version :=
  ⟨fun _ _ => ofOverride?_eq_some_iff.trans isWritten_iff, fun _ => ofOverride?_eq_none_iff,
    fun version => ofOverride?_eq_some_iff.mpr (isWritten_written version)⟩

example : ofOverride? "\t010.+3.0\n" = some ⟨10, 3, 0⟩ := by decide +kernel

end Parts

section Names

open Text.Numeral (digitChar_injective toList_hex_of_digit)

/-- Minor version and stepping take one hexadecimal digit each. -/
structure HasShortName (version : GfxVersion) : Prop where
  minor : version.minor.toNat < 16
  stepping : version.stepping.toNat < 16

theorem HasShortName.toList_name (short : version.HasShortName) :
    version.name.toList =
      "gfx".toList ++ (Nat.toDigits 10 version.major.toNat ++
        [Nat.digitChar version.minor.toNat, Nat.digitChar version.stepping.toNat]) := by
  simp only [name, String.toList_append, toList_hex_of_digit short.minor,
    toList_hex_of_digit short.stepping, Text.Numeral.decimal, String.toList_ofList,
    List.append_assoc, List.singleton_append]

/-- Versions whose minor version and stepping are below sixteen have the same name only if they
    are the same, wherever they come from and whatever their major versions are. -/
theorem names_tell_versions_apart {other : GfxVersion} (short : version.HasShortName)
    (shortToo : other.HasShortName) (same : version.name = other.name) : version = other := by
  have chars := congrArg String.toList same
  rw [short.toList_name, shortToo.toList_name, List.append_cancel_left_eq] at chars
  -- The last two characters are the digits that stand for themselves.
  obtain ⟨majors, digits⟩ := List.append_inj' chars rfl
  obtain ⟨minors, rest⟩ := List.cons.inj digits
  have steppings := List.head_eq_of_cons_eq rest
  have major := Text.Numeral.decimal_injective (congrArg String.ofList majors)
  have minor := digitChar_injective short.minor shortToo.minor minors
  have stepping := digitChar_injective short.stepping shortToo.stepping steppings
  obtain ⟨_, _, _⟩ := version
  obtain ⟨_, _, _⟩ := other
  rw [mk.injEq]
  exact ⟨UInt32.toNat_inj.mp major, UInt32.toNat_inj.mp minor, UInt32.toNat_inj.mp stepping⟩

theorem override_named_as_target :
    ∃ version, ofOverride? "+9.0.010" = some version ∧
      version.name = (ofTarget 90010).name ∧ version = ofTarget 90010 := by
  refine ⟨⟨9, 0, 10⟩, by decide +kernel, by decide, ?_⟩
  exact names_tell_versions_apart ⟨by decide, by decide⟩ ⟨by decide, by decide⟩ (by decide)

/-- A minor version of two digits may borrow one from the major version. -/
example : name ⟨1, 16, 0⟩ = name ⟨11, 0, 0⟩ := by decide

end Names

end ComputeTopology.Kfd.GfxVersion
