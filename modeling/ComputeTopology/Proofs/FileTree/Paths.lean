import ComputeTopology.FileTree.Basic
import ComputeTopology.Proofs.Text.Decimal
import ComputeTopology.Proofs.Text.Pieces

namespace ComputeTopology

namespace Path

/-- A name that stands for an entry of a directory, and is no path of several components. -/
def Plain (name : String) : Prop :=
  name ≠ "" ∧ name ≠ "." ∧ name ≠ ".." ∧ '/' ∉ name.toList

instance (name : String) : Decidable (Plain name) :=
  inferInstanceAs (Decidable (_ ∧ _))

def place (path : String) : List String :=
  ((components path).foldl FileTree.descend []).reverse

/-- A path passes the places that it leads to before its last component. -/
def Passes (path : String) (place : List String) : Prop :=
  ∃ taken, taken <+: components path ∧ taken ≠ components path ∧
    place = (taken.foldl FileTree.descend []).reverse

/-- The places that a path passes, and the one where it ends. -/
def visits (path : String) : List (List String) :=
  (components path).inits.map fun taken => (taken.foldl FileTree.descend []).reverse

variable {base name : String}

theorem descend_plain (plain : Plain name) (reversed : List String) :
    FileTree.descend reversed name = name :: reversed := by
  obtain ⟨nonempty, current, parent, _⟩ := plain
  simp [FileTree.descend, nonempty, current, parent]

theorem components_of_plain (plain : Plain name) : components name = [name] := by
  have whole : ∀ c ∈ name.toList, (c == '/') = false := by
    intro c member
    exact beq_false_of_ne (fun same => plain.2.2.2 (same ▸ member))
  rw [components, Text.split_of_unseparated whole, List.map_singleton, String.ofList_toList]

theorem components_append_slash (front back : String) :
    components (front ++ "/" ++ back) = components front ++ components back := by
  have text : (front ++ "/" ++ back).toList = front.toList ++ '/' :: back.toList := by simp
  rw [components, text, Text.split_append_cons (by rfl), List.map_append]
  rfl

/-- Below a path that ends in a slash, the last component, which is empty, is replaced. -/
theorem components_join (base : String) (plain : Plain name) :
    ∃ kept, (components base = kept ∨ components base = kept ++ [""]) ∧
      components (join base name) = kept ++ [name] := by
  have single := components_of_plain plain
  have relative : isAbsolute name = false := by
    unfold isAbsolute
    cases first : name.toList.head? with
    | none => rfl
    | some c =>
        have member : c ∈ name.toList := List.mem_of_mem_head? first
        have other : c ≠ '/' := fun same => plain.2.2.2 (same ▸ member)
        simpa using other
  unfold join
  simp only [relative, Bool.false_or]
  split
  · rename_i empty
    obtain rfl : base = "" := by simpa using empty
    exact ⟨[], .inr rfl, single⟩
  · split
    · rename_i ended
      obtain ⟨front, rfl⟩ : ∃ front, base = front ++ "/" := by
        obtain ⟨front, whole⟩ := List.getLast?_eq_some_iff.mp (eq_of_beq ended)
        refine ⟨String.ofList front, String.toList_injective ?_⟩
        simpa using whole
      refine ⟨components front, .inr ?_, ?_⟩
      · have split := components_append_slash front ""
        rwa [String.append_empty] at split
      · rw [components_append_slash, single]
    · refine ⟨components base, .inl rfl, ?_⟩
      rw [components_append_slash, single]

theorem place_join (plain : Plain name) : place (join base name) = place base ++ [name] := by
  obtain ⟨kept, either, joined⟩ := components_join base plain
  have same : place base = (kept.foldl FileTree.descend []).reverse := by
    rcases either with whole | whole
    · rw [place, whole]
    · rw [place, whole, List.foldl_append]
      rfl
  rw [same, place, joined, List.foldl_append, List.foldl_cons, List.foldl_nil, descend_plain plain,
    List.reverse_cons]

theorem prefix_and_ne_concat_iff {taken kept : List String} {last : String} :
    (taken <+: kept ++ [last] ∧ taken ≠ kept ++ [last]) ↔ taken <+: kept := by
  rw [List.prefix_concat_iff]
  constructor
  · rintro ⟨same | before, different⟩
    · exact absurd same different
    · exact before
  · intro before
    refine ⟨.inr before, fun same => ?_⟩
    have short := before.length_le
    rw [same, List.length_append, List.length_singleton] at short
    omega

theorem passes_join (plain : Plain name) {passed : List String} :
    Passes (join base name) passed ↔ Passes base passed ∨ passed = place base := by
  obtain ⟨kept, either, joined⟩ := components_join base plain
  have joins : Passes (join base name) passed ↔
      ∃ taken, taken <+: kept ∧ passed = (taken.foldl FileTree.descend []).reverse := by
    simp only [Passes, joined, ← and_assoc, prefix_and_ne_concat_iff]
  rw [joins]
  rcases either with whole | whole
  · unfold Passes place
    rw [whole]
    constructor
    · rintro ⟨taken, before, rfl⟩
      by_cases all : taken = kept
      · exact .inr (by rw [all])
      · exact .inl ⟨taken, before, all, rfl⟩
    · rintro (⟨taken, before, _, rfl⟩ | rfl)
      · exact ⟨taken, before, rfl⟩
      · exact ⟨kept, List.prefix_rfl, rfl⟩
  · have passes : Passes base passed ↔
        ∃ taken, taken <+: kept ∧ passed = (taken.foldl FileTree.descend []).reverse := by
      simp only [Passes, whole, ← and_assoc, prefix_and_ne_concat_iff]
    have ended : place base = (kept.foldl FileTree.descend []).reverse := by
      rw [place, whole, List.foldl_append]
      rfl
    rw [passes, ended]
    refine ⟨.inl, ?_⟩
    rintro (passed | rfl)
    · exact passed
    · exact ⟨kept, List.prefix_rfl, rfl⟩

theorem mem_visits_iff {path : String} {visited : List String} :
    visited ∈ visits path ↔ Passes path visited ∨ visited = place path := by
  simp only [visits, List.mem_map, List.mem_inits]
  constructor
  · rintro ⟨taken, before, rfl⟩
    by_cases all : taken = components path
    · exact .inr (by rw [all, place])
    · exact .inl ⟨taken, before, all, rfl⟩
  · rintro (⟨taken, before, _, rfl⟩ | rfl)
    · exact ⟨taken, before, rfl⟩
    · exact ⟨components path, List.prefix_rfl, rfl⟩

theorem mem_visits_join_iff (plain : Plain name) {visited : List String} :
    visited ∈ visits (join base name) ↔ visited ∈ visits base ∨ visited = place base ++ [name] := by
  rw [mem_visits_iff, mem_visits_iff, passes_join plain, place_join plain]

/-- A numeral is the plain name of an entry. -/
theorem plain_of_word? {α : Type} [Word α] {number : α}
    (numeral : Text.Numeral.word? 10 name.toList = some number) : Plain name ∧ ':' ∉ name.toList := by
  obtain ⟨value, natural, _⟩ := Option.bind_eq_some_iff.mp numeral
  obtain ⟨nonempty, chars⟩ := Text.Numeral.chars_of_natural? natural
  have absent {c : Char} (other : ¬ (c = '+' ∨ ('0' ≤ c ∧ c ≤ '9'))) : c ∉ name.toList :=
    fun member => other (chars c member)
  refine ⟨⟨?_, ?_, ?_, absent (by decide)⟩, absent (by decide)⟩
  · rintro rfl
    exact nonempty rfl
  · rintro rfl
    exact absent (c := '.') (by decide) (by decide)
  · rintro rfl
    exact absent (c := '.') (by decide) (by decide)

end Path

end ComputeTopology
