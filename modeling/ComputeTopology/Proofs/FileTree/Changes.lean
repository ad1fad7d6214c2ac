import ComputeTopology.Proofs.FileTree.Places
import ComputeTopology.Proofs.Lookup

namespace ComputeTopology

/-- A path that ends outside of a directory, and passes nothing below it on the way. -/
structure Path.Outside (directory : List String) (path : String) : Prop where
  visited : ∀ visited ∈ visits path, directory <+: visited → visited = directory
  ended : ¬ directory <+: place path

instance (directory : List String) (path : String) : Decidable (Path.Outside directory path) :=
  decidable_of_iff ((∀ visited ∈ Path.visits path, directory <+: visited → visited = directory) ∧
      ¬ directory <+: Path.place path)
    ⟨fun ⟨visited, ended⟩ => ⟨visited, ended⟩, fun outside => ⟨outside.visited, outside.ended⟩⟩

theorem Path.Outside.join {front : List String} {last path name : String}
    (outside : Outside (front ++ [last]) path) (plain : Plain name) (other : last ≠ name) :
    Outside (front ++ [last]) (join path name) := by
  have ended : ¬ front ++ [last] <+: place path ++ [name] := by
    rw [List.prefix_concat_iff]
    rintro (same | below)
    · exact other (List.concat_inj.mp (by simpa using same)).2
    · exact outside.ended below
  refine ⟨fun visited member below => ?_, by rwa [place_join plain]⟩
  rcases (mem_visits_join_iff plain).mp member with earlier | rfl
  · exact outside.visited visited earlier below
  · exact absurd below ended

namespace FileTree

/-- Two trees that differ at most below one directory, which both have. -/
inductive DifferBelow : List String → FileTree → FileTree → Prop
  | here {left right} : DifferBelow [] (.directory left) (.directory right)
  | inside {name rest before after left right} :
      name ∉ before.map Prod.fst → DifferBelow rest left right →
        DifferBelow (name :: rest) (.directory (before ++ (name, left) :: after))
          (.directory (before ++ (name, right) :: after))

namespace DifferBelow

variable {left right : FileTree} {directory place : List String} {path : String}

theorem directories (differ : DifferBelow directory left right) :
    ∃ entries others, left = .directory entries ∧ right = .directory others := by
  cases differ with
  | here => exact ⟨_, _, rfl, rfl⟩
  | inside => exact ⟨_, _, rfl, rfl⟩

theorem sameOutline (differ : DifferBelow directory left right) (outside : ¬ directory <+: place) :
    SameOutline left right place := by
  induction differ generalizing place with
  | here => exact absurd List.nil_prefix outside
  | @inside name rest before after left right first differ ih =>
      cases place with
      | nil =>
          -- What is seen from above is that the entry is a directory, and it is one in both.
          obtain ⟨entries, others, rfl, rfl⟩ := differ.directories
          have same : numbered? (name, .directory entries) = numbered? (name, .directory others) := rfl
          simp only [SameOutline, standing?, Option.map_some, outline, List.filterMap_append,
            List.filterMap_cons, same]
      | cons other more =>
          unfold SameOutline standing?
          by_cases same : other = name
          · subst same
            rw [lookup_middle first, lookup_middle first]
            exact ih (fun below => outside (List.cons_prefix_cons.mpr ⟨rfl, below⟩))
          · rw [lookup_beside same, lookup_beside same]

theorem standing (differ : DifferBelow directory left right) :
    ∃ entries others, left.standing? directory = some (.directory entries) ∧
      right.standing? directory = some (.directory others) := by
  induction differ with
  | here => exact ⟨_, _, rfl, rfl⟩
  | inside first _ ih =>
      obtain ⟨entries, others, l, r⟩ := ih
      refine ⟨entries, others, ?_, ?_⟩
      · rw [standing?, lookup_middle first]
        exact l
      · rw [standing?, lookup_middle first]
        exact r

theorem sameKind (differ : DifferBelow directory left right)
    (outside : directory <+: place → place = directory) : SameKind left right place := by
  by_cases below : directory <+: place
  · obtain ⟨entries, others, l, r⟩ := differ.standing
    rw [outside below, SameKind, l, r]
    rfl
  · exact (differ.sameOutline below).sameKind

theorem followed (differ : DifferBelow directory left right)
    (outside : Path.Outside directory path) : FollowedAlike left right path where
  passed place passes :=
    differ.sameKind (outside.visited place (Path.mem_visits_iff.mpr (.inl passes)))
  ended := differ.sameOutline outside.ended

end DifferBelow

end FileTree

end ComputeTopology
