import Mathlib.Data.List.Nodup
import Mathlib.Data.List.Perm.Basic
import ComputeTopology.FileTree.Numbered

namespace ComputeTopology.FileTree

/-- A file stands at the path, and it holds text. -/
def HoldsText (root : FileTree) (path : String) : Prop :=
  ∃ text, root.locate path = .ok (.file (some text))

def HoldsDirectory (root : FileTree) (path : String) : Prop :=
  ∃ entries, root.locate path = .ok (.directory entries)

/-- The directory at the path has a subdirectory of this name, a numeral of this value. -/
def HoldsNumbered (root : FileTree) (path : String) (entry : Numbered) : Prop :=
  ∃ entries inside, root.locate path = .ok (.directory entries) ∧
    (entry.name, .directory inside) ∈ entries ∧
    Text.Numeral.word? 10 entry.name.toList = some entry.number

variable {root : FileTree} {path : String}

theorem readText_eq_ok_iff {text : String} :
    root.readText path = .ok text ↔ root.locate path = .ok (.file (some text)) := by
  unfold readText
  cases root.locate path with
  | error failure => simp
  | ok place =>
      cases place with
      | directory entries => simp
      | file content => cases content <;> simp

theorem isDirectory_iff :
    root.isDirectory path = true ↔ root.HoldsDirectory path := by
  unfold isDirectory HoldsDirectory
  cases root.locate path with
  | error failure => simp
  | ok place => cases place <;> simp

theorem numbered?_eq_some_iff {item : String × FileTree} {entry : Numbered} :
    numbered? item = some entry ↔
      (∃ inside, item = (entry.name, .directory inside)) ∧
        Text.Numeral.word? 10 entry.name.toList = some entry.number := by
  obtain ⟨name, place⟩ := item
  obtain ⟨number, given⟩ := entry
  cases place with
  | file content => simp [numbered?]
  | directory inside =>
      simp only [numbered?, Option.map_eq_some_iff, Numbered.mk.injEq, Prod.mk.injEq]
      constructor
      · rintro ⟨_, read, rfl, rfl⟩
        exact ⟨⟨inside, rfl, rfl⟩, read⟩
      · rintro ⟨⟨_, rfl, _⟩, read⟩
        exact ⟨number, read, rfl, rfl⟩

theorem insertNumbered_perm (entry : Numbered) (sorted : List Numbered) :
    (insertNumbered entry sorted).Perm (entry :: sorted) := by
  induction sorted with
  | nil => exact .refl _
  | cons first rest ih =>
      unfold insertNumbered
      by_cases before : entry.number < first.number
      · rw [if_pos before]
      · rw [if_neg before]
        exact (ih.cons first).trans (.swap entry first rest)

theorem sortNumbered_perm (entries : List Numbered) : (sortNumbered entries).Perm entries := by
  have inserted (sorted : List Numbered) :
      (entries.foldl (fun sorted entry => insertNumbered entry sorted) sorted).Perm
        (entries ++ sorted) := by
    induction entries generalizing sorted with
    | nil => exact .refl _
    | cons entry rest ih =>
        refine (ih (insertNumbered entry sorted)).trans ?_
        exact ((insertNumbered_perm entry sorted).append_left rest).trans List.perm_middle
  have all := inserted []
  rw [List.append_nil] at all
  exact all

theorem insertNumbered_sorted {sorted : List Numbered}
    (order : sorted.Pairwise (·.number ≤ ·.number)) (entry : Numbered) :
    (insertNumbered entry sorted).Pairwise (·.number ≤ ·.number) := by
  induction sorted with
  | nil => exact List.pairwise_singleton _ entry
  | cons first rest ih =>
      obtain ⟨least, later⟩ := List.pairwise_cons.mp order
      unfold insertNumbered
      by_cases before : entry.number < first.number
      · rw [if_pos before]
        refine List.pairwise_cons.mpr ⟨fun other member => ?_, order⟩
        rcases List.mem_cons.mp member with rfl | member
        · exact UInt32.le_of_lt before
        · exact UInt32.le_trans (UInt32.le_of_lt before) (least other member)
      · rw [if_neg before]
        refine List.pairwise_cons.mpr ⟨fun other member => ?_, ih later⟩
        rcases List.mem_cons.mp ((insertNumbered_perm entry rest).mem_iff.mp member) with rfl | member
        · exact UInt32.not_lt.mp before
        · exact least other member

theorem sortNumbered_sorted (entries : List Numbered) :
    (sortNumbered entries).Pairwise (·.number ≤ ·.number) := by
  have inserted {sorted : List Numbered} (order : sorted.Pairwise (·.number ≤ ·.number)) :
      (entries.foldl (fun sorted entry => insertNumbered entry sorted) sorted).Pairwise
        (·.number ≤ ·.number) := by
    induction entries generalizing sorted with
    | nil => exact order
    | cons entry rest ih => exact ih (insertNumbered_sorted order entry)
  exact inserted .nil

section Distinct

variable {entries others : List Numbered} (distinct : (entries.map (·.number)).Nodup)

include distinct

theorem sortNumbered_increasing : (sortNumbered entries).Pairwise (·.number < ·.number) := by
  have different : (sortNumbered entries).Pairwise (·.number ≠ ·.number) := by
    rw [← List.pairwise_map (R := (· ≠ ·))]
    exact (((sortNumbered_perm entries).map _).nodup_iff).mpr distinct
  exact (sortNumbered_sorted entries).imp₂ (fun _ _ => UInt32.lt_of_le_of_ne) different

theorem sortNumbered_eq_of_perm (order : entries.Perm others) :
    sortNumbered entries = sortNumbered others := by
  have sorted := (sortNumbered_perm entries).trans (order.trans (sortNumbered_perm others).symm)
  refine List.Perm.eq_of_pairwise (fun left right member other before after => ?_)
    (sortNumbered_sorted entries) (sortNumbered_sorted others) sorted
  refine List.inj_on_of_nodup_map distinct ?_ ?_ (UInt32.le_antisymm before after)
  · exact (sortNumbered_perm entries).mem_iff.mp member
  · exact order.mem_iff.mpr ((sortNumbered_perm others).mem_iff.mp other)

end Distinct

theorem numberedEntries_sorted (root : FileTree) (path : String) :
    (root.numberedEntries path).Pairwise (·.number ≤ ·.number) := by
  unfold numberedEntries
  split
  · exact sortNumbered_sorted _
  · exact .nil

theorem mem_numberedEntries_iff {entry : Numbered} :
    entry ∈ root.numberedEntries path ↔ root.HoldsNumbered path entry := by
  unfold numberedEntries HoldsNumbered
  cases root.locate path with
  | error failure => simp
  | ok place =>
      cases place with
      | file content => simp
      | directory entries =>
          simp only [(sortNumbered_perm _).mem_iff, List.mem_filterMap, numbered?_eq_some_iff,
            Except.ok.injEq, FileTree.directory.injEq]
          constructor
          · rintro ⟨item, member, ⟨inside, rfl⟩, read⟩
            exact ⟨entries, inside, rfl, member, read⟩
          · rintro ⟨_, inside, rfl, member, read⟩
            exact ⟨_, member, ⟨inside, rfl⟩, read⟩

end ComputeTopology.FileTree
