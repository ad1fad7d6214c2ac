import Mathlib.Logic.Relation
import ComputeTopology.Kfd.Properties
import ComputeTopology.Proofs.Lookup
import ComputeTopology.Proofs.Text.Numerals
import ComputeTopology.Proofs.Text.Words

namespace ComputeTopology.Kfd

open Text (IsWord Breaks allBlank)

/-- A line gives a value to a key: they are its first two words. -/
def GivesValue (key line value : List Char) : Prop :=
  ∃ front gap rest, line = front ++ key ++ gap ++ value ++ rest ∧ allBlank front = true ∧
    IsWord key ∧ gap ≠ [] ∧ allBlank gap = true ∧ IsWord value ∧ Breaks rest

/-- Lines that differ in what a key takes no notice of: a line that gives it no value, or
    the way in which a line gives it its value. -/
inductive Retouched (key : List Char) : List (List Char) → List (List Char) → Prop
  | insert {before after line} : (∀ value, ¬GivesValue key line value) →
      Retouched key (before ++ after) (before ++ line :: after)
  | respell {before after line other value} : GivesValue key line value →
      GivesValue key other value → Retouched key (before ++ line :: after) (before ++ other :: after)

namespace Properties

variable {key value line : List Char}

theorem words_eq_iff_givesValue :
    (∃ others, Text.words line = key :: value :: others) ↔ GivesValue key line value := by
  simp only [Text.words_eq_cons_iff]
  constructor
  · rintro ⟨_, front, _, rfl, blank, isKey, breaks, gap, rest, rfl, gapBlank, isValue, ends, _⟩
    refine ⟨front, gap, rest, by simp, blank, isKey, ?_, gapBlank, isValue, ends⟩
    -- Without a gap the value would go on with the key.
    rintro rfl
    obtain ⟨c, others, rfl⟩ := List.exists_cons_of_ne_nil isValue.1
    have joins := isValue.2 c List.mem_cons_self
    rw [breaks c rfl] at joins
    contradiction
  · rintro ⟨front, gap, rest, rfl, blank, isKey, parted, gapBlank, isValue, ends⟩
    refine ⟨_, front, gap ++ value ++ rest, by simp, blank, isKey, ?_, gap, rest, rfl, gapBlank,
      isValue, ends, rfl⟩
    obtain ⟨c, others, rfl⟩ := List.exists_cons_of_ne_nil parted
    intro first same
    cases same
    exact List.all_eq_true.mp gapBlank c List.mem_cons_self

theorem entry?_eq_some_iff : entry? line = some (key, value) ↔ GivesValue key line value := by
  rw [← words_eq_iff_givesValue]
  unfold entry?
  split
  · rename_i first second others words
    simp [words]
  · rename_i few
    simp only [reduceCtorEq, false_iff, not_exists]
    exact fun others words => few key value others words

theorem value?_parse_eq_some_iff {text key : String} :
    (parse text).value? key = some value ↔
      LastGives (GivesValue key.toList) (Text.lines text.toList) value := by
  simp only [value?, parse, lookup_reverse_filterMap_eq_some_iff, entry?_eq_some_iff]

theorem lookup_of_retouched {lines others : List (List Char)}
    (retouched : Relation.EqvGen (Retouched key) lines others) :
    (lines.filterMap entry?).reverse.lookup key = (others.filterMap entry?).reverse.lookup key := by
  induction retouched with
  | rel _ _ step =>
      cases step with
      | @insert before after line silent =>
          cases found : entry? line with
          | none => simp [found]
          | some pair =>
              obtain ⟨other, value⟩ := pair
              have passed : (key == other) = false := by
                refine beq_false_of_ne ?_
                rintro rfl
                exact silent value (entry?_eq_some_iff.mp found)
              simp [found, List.lookup_append, List.lookup_cons, passed]
      | respell gives givesToo =>
          simp only [List.filterMap_append, List.filterMap_cons, entry?_eq_some_iff.mpr gives,
            entry?_eq_some_iff.mpr givesToo]
  | refl => rfl
  | symm _ _ _ ih => exact ih.symm
  | trans _ _ _ _ _ first second => exact first.trans second

/-- A property is a number of some width exactly if the last line that gives it a value gives
    a numeral of that number, whatever earlier lines give. Nothing else in the file makes a
    difference to it. -/
theorem last_line_gives_value (text key : String) :
    (∀ (α : Type) [Word α] (word : α), (parse text).word? key = some word ↔
        ∃ value, LastGives (GivesValue key.toList) (Text.lines text.toList) value ∧
          Text.Numeral.Denotes 10 value (Word.toNat word)) ∧
      ∀ other : String,
        Relation.EqvGen (Retouched key.toList) (Text.lines text.toList) (Text.lines other.toList) →
        (∀ (α : Type) [Word α], ((parse text).word? key : Option α) = (parse other).word? key) ∧
          (parse text).signed32? key = (parse other).signed32? key ∧
          (parse text).count key = (parse other).count key := by
  refine ⟨fun α _ word => ?_, fun other retouched => ?_⟩
  · simp only [word?, Option.bind_eq_some_iff, value?_parse_eq_some_iff,
      Text.Numeral.word?_eq_some_iff]
  · have same : (parse text).value? key = (parse other).value? key := lookup_of_retouched retouched
    refine ⟨fun α _ => ?_, ?_, ?_⟩
    · rw [word?, word?, same]
    · rw [signed32?, signed32?, same]
    · rw [count, count, word?, word?, same]

/-- A size that does not fit eight bits, after one that does, stays what it is if its line is
    spelled otherwise, and if lines for the size without a value come and others go. -/
theorem last_line_of_retouched_size :
    let text := "size 16\nsize 300\nlevel 2\n"
    let other := "size 16\n\u00a0size\t300 KiB\nsize\n"
    Relation.EqvGen (Retouched "size".toList) (Text.lines text.toList) (Text.lines other.toList) ∧
      (parse text).word? "size" = (none : Option UInt8) ∧
      (parse text).word? "size" = some (300 : UInt32) ∧
      (parse other).word? "size" = some (300 : UInt32) ∧ (parse other).count "size" = 300 := by
  intro text other
  have silent {line : String} (without : entry? line.toList = none) (value : List Char) :
      ¬GivesValue "size".toList line.toList value := by
    rw [← entry?_eq_some_iff, without]
    simp
  have gives : GivesValue "size".toList "size 300".toList "300".toList :=
    entry?_eq_some_iff.mp (by decide)
  have givesToo : GivesValue "size".toList "\u00a0size\t300 KiB".toList "300".toList :=
    entry?_eq_some_iff.mp (by decide)
  have elsewhere (value : List Char) : ¬GivesValue "size".toList "level 2".toList value := by
    rw [← entry?_eq_some_iff, (by decide : entry? "level 2".toList = some ("level".toList, "2".toList))]
    simp
  have lines : Text.lines text.toList =
      ["size 16".toList] ++ "size 300".toList :: ["level 2".toList] := by decide
  have otherLines : Text.lines other.toList =
      ["size 16".toList, "\u00a0size\t300 KiB".toList] ++ "size".toList :: [] := by decide
  have retouched : Relation.EqvGen (Retouched "size".toList) (Text.lines text.toList)
      (Text.lines other.toList) := by
    rw [lines, otherLines]
    refine .trans _ _ _ (.rel _ _ (.respell gives givesToo)) (.trans _ (["size 16".toList,
      "\u00a0size\t300 KiB".toList] ++ []) _ (.symm _ _ (.rel _ _ (.insert elsewhere))) ?_)
    exact .rel _ _ (.insert (silent (by decide)))
  obtain ⟨_, kept⟩ := last_line_gives_value text "size"
  obtain ⟨words, _, counts⟩ := kept other retouched
  have size : (parse text).word? "size" = some (300 : UInt32) := by decide
  exact ⟨retouched, by decide, size, (words UInt32).symm.trans size, counts.symm.trans (by decide)⟩

end Properties

end ComputeTopology.Kfd
