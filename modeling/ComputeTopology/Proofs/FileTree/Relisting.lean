import Mathlib.Data.Multiset.Defs
import ComputeTopology.Proofs.FileTree.Places
import ComputeTopology.Proofs.Lookup

namespace ComputeTopology

/-- A path that does not come to a place, nor to anything below it. -/
def Path.Avoids (place : List String) (path : String) : Prop :=
  ∀ visited ∈ visits path, ¬ place <+: visited

instance (place : List String) (path : String) : Decidable (Path.Avoids place path) :=
  inferInstanceAs (Decidable (∀ visited ∈ Path.visits path, ¬ place <+: visited))

theorem Path.Avoids.join {place : List String} {base name : String} (avoids : Avoids place base)
    (plain : Plain name) (ended : ¬ place <+: Path.place base ++ [name]) :
    Avoids place (join base name) := by
  intro visited member
  rcases (mem_visits_join_iff plain).mp member with earlier | rfl
  · exact avoids visited earlier
  · exact ended

namespace FileTree

/-- No directory holds two subdirectories with the same number. -/
inductive NumbersDistinct : FileTree → Prop
  | file {text} : NumbersDistinct (.file text)
  | directory {entries} : ((entries.filterMap numbered?).map (·.number)).Nodup →
      (∀ item ∈ entries, NumbersDistinct item.2) → NumbersDistinct (.directory entries)

@[simp]
theorem numbersDistinct_file (text : Option String) : (FileTree.file text).NumbersDistinct :=
  .file

@[simp]
theorem numbersDistinct_directory {entries : List (String × FileTree)} :
    (FileTree.directory entries).NumbersDistinct ↔
      ((entries.filterMap numbered?).map (·.number)).Nodup ∧
        ∀ item ∈ entries, item.2.NumbersDistinct := by
  constructor
  · rintro (_ | ⟨own, inside⟩)
    exact ⟨own, inside⟩
  · rintro ⟨own, inside⟩
    exact .directory own inside

/-- Two trees with the same entries in some order, apart from strays. -/
inductive Relisted (stray : List String → Prop) : List String → FileTree → FileTree → Prop
  | refl {place tree} : Relisted stray place tree tree
  | symm {place left right} : Relisted stray place left right → Relisted stray place right left
  | trans {place left middle right} : Relisted stray place left middle →
      Relisted stray place middle right → Relisted stray place left right
  | reorder {place left right} : (left.map Prod.fst).Nodup → left.Perm right →
      Relisted stray place (.directory left) (.directory right)
  | stray {place name tree entries} : stray (place ++ [name]) → numbered? (name, tree) = none →
      Relisted stray place (.directory entries) (.directory ((name, tree) :: entries))
  | inside {place name before after left right} : name ∉ before.map Prod.fst →
      Relisted stray (place ++ [name]) left right →
        Relisted stray place (.directory (before ++ (name, left) :: after))
          (.directory (before ++ (name, right) :: after))

/-- What a tree shows at its top, whatever the order of its entries. -/
inductive Census where
  | file (text : Option String)
  | directory (numbered : Multiset Numbered)

def census : FileTree → Census
  | .file text => .file text
  | .directory entries => .directory (entries.filterMap numbered?)

variable {stray : List String → Prop} {left right tree : FileTree} {place rest : List String}
  {path : String}

theorem NumbersDistinct.standing (distinct : tree.NumbersDistinct)
    (found : tree.standing? place = some left) : left.NumbersDistinct := by
  induction place generalizing tree with
  | nil =>
      rw [standing?] at found
      exact Option.some.inj found ▸ distinct
  | cons name rest ih =>
      cases distinct with
      | file => contradiction
      | directory _ inside =>
          obtain ⟨child, here, below⟩ := Option.bind_eq_some_iff.mp found
          obtain ⟨before, after, rfl, _⟩ := List.lookup_eq_some_iff.mp here
          have member : (name, child) ∈ before ++ (name, child) :: after :=
            List.mem_append_right before List.mem_cons_self
          exact ih (inside _ member) below

theorem numberedEntries_increasing (distinct : tree.NumbersDistinct) (path : String) :
    (tree.numberedEntries path).Pairwise (·.number < ·.number) := by
  unfold numberedEntries
  cases located : tree.locate path with
  | error failure => exact .nil
  | ok here =>
      cases here with
      | file text => exact .nil
      | directory entries =>
          cases distinct.standing (locate_eq_ok located).2 with
          | directory own _ => exact sortNumbered_increasing own

theorem numbered?_of_census {name : String} (same : left.census = right.census) :
    numbered? (name, left) = numbered? (name, right) := by
  cases left <;> cases right <;> first | rfl | contradiction

theorem outline_of_census (distinct : left.NumbersDistinct) (same : left.census = right.census) :
    left.outline = right.outline := by
  cases distinct with
  | file =>
      cases right with
      | file text => exact congrArg Outline.file (Census.file.inj same)
      | directory others => contradiction
  | directory own _ =>
      cases right with
      | file text => contradiction
      | directory others =>
          have order := Multiset.coe_eq_coe.mp (Census.directory.inj same)
          exact congrArg Outline.directory (sortNumbered_eq_of_perm own order)

namespace Relisted

/-- Where no stray is on the way, there is the same in both trees. What stands at the
    top is never a stray itself, however it is called. -/
theorem sameCensus (relisted : Relisted stray place left right)
    (kept : ∀ front, front <+: rest → front ≠ [] → ¬ stray (place ++ front)) :
    (left.standing? rest).map census = (right.standing? rest).map census := by
  induction relisted generalizing rest with
  | refl => rfl
  | symm _ ih => exact (ih kept).symm
  | trans _ _ first second => exact (first kept).trans (second kept)
  | @reorder place left right names order =>
      cases rest with
      | nil =>
          exact congrArg (fun numbered => some (Census.directory numbered))
            (Multiset.coe_eq_coe.mpr (order.filterMap numbered?))
      | cons name rest =>
          rw [standing?, standing?, lookup_perm (List.nodup_iff_count_le_one.mp names name) order]
  | @stray place name tree entries strays unnumbered =>
      cases rest with
      | nil => simp only [standing?, Option.map_some, census, List.filterMap_cons, unnumbered]
      | cons other rest =>
          have beside : other ≠ name := by
            rintro rfl
            exact kept [other] (List.cons_prefix_cons.mpr ⟨rfl, List.nil_prefix⟩)
              (List.cons_ne_nil _ _) strays
          rw [standing?, standing?, List.lookup_cons, beq_false_of_ne beside]
  | @inside place name before after left right first _ ih =>
      cases rest with
      | nil =>
          -- The entry is still of its kind, so it is numbered in both listings or in neither.
          have top := @ih [] (fun front before other => absurd (List.prefix_nil.mp before) other)
          have same : numbered? (name, left) = numbered? (name, right) :=
            numbered?_of_census (Option.some.inj top)
          simp only [standing?, Option.map_some, census, List.filterMap_append,
            List.filterMap_cons, same]
      | cons other rest =>
          by_cases same : other = name
          · subst same
            rw [standing?, standing?, lookup_middle first, lookup_middle first]
            refine ih fun front before _ => ?_
            rw [List.append_assoc]
            exact kept (other :: front) (List.cons_prefix_cons.mpr ⟨rfl, before⟩)
              (List.cons_ne_nil _ _)
          · rw [standing?, standing?, lookup_beside same, lookup_beside same]

section Whole

variable (distinct : left.NumbersDistinct) (relisted : Relisted stray [] left right)

include distinct relisted

theorem sameOutline (kept : ∀ front, front <+: place → front ≠ [] → ¬ stray front) :
    SameOutline left right place := by
  have same := relisted.sameCensus kept
  unfold SameOutline
  cases found : left.standing? place with
  | none =>
      rw [found] at same
      rw [Option.map_eq_none_iff.mp same.symm]
  | some here =>
      rw [found] at same
      obtain ⟨there, other, counted⟩ := Option.map_eq_some_iff.mp same.symm
      rw [other]
      exact congrArg some (outline_of_census (distinct.standing found) counted.symm)

theorem followed (avoids : ∀ place, stray place → Path.Avoids place path) :
    FollowedAlike left right path := by
  have visited (place : List String) (member : place ∈ Path.visits path) :
      SameOutline left right place :=
    relisted.sameOutline distinct fun front before _ strays => avoids front strays place member before
  exact {
    passed := fun place passes => (visited place (Path.mem_visits_iff.mpr (.inl passes))).sameKind
    ended := visited _ (Path.mem_visits_iff.mpr (.inr rfl)) }

end Whole

end Relisted

end FileTree

end ComputeTopology
