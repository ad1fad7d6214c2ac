import ComputeTopology.Proofs.FileTree.Listing
import ComputeTopology.Proofs.FileTree.Paths

namespace ComputeTopology

namespace FileTree

def standing? : FileTree → List String → Option FileTree
  | here, [] => some here
  | .file _, _ :: _ => none
  | .directory entries, name :: rest => (entries.lookup name).bind (standing? · rest)

/-- What a tree shows at its top: the text of a file, or the numbered directories
    of a directory in numeric order. -/
inductive Outline where
  | file (text : Option String)
  | directory (numbered : List Numbered)

def outline : FileTree → Outline
  | .file text => .file text
  | .directory entries => .directory (sortNumbered (entries.filterMap numbered?))

def Outline.isFile : Outline → Bool
  | .file _ => true
  | .directory _ => false

def isFile (tree : FileTree) : Bool :=
  tree.outline.isFile

variable {root left right : FileTree} {path : String} {place reversed : List String}
  {here there : FileTree} {above beyond : List FileTree}

theorem standing?_append (root : FileTree) (front back : List String) :
    root.standing? (front ++ back) = (root.standing? front).bind (standing? · back) := by
  induction front generalizing root with
  | nil => rfl
  | cons name rest ih =>
      cases root with
      | file text => rfl
      | directory entries =>
          simp only [List.cons_append, standing?, Option.bind_assoc]
          exact congrArg _ (funext ih)

/-- Two trees have a file, a directory or nothing alike at a place. -/
def SameKind (left right : FileTree) (place : List String) : Prop :=
  (left.standing? place).map isFile = (right.standing? place).map isFile

/-- Two trees show the same at a place. -/
def SameOutline (left right : FileTree) (place : List String) : Prop :=
  (left.standing? place).map outline = (right.standing? place).map outline

theorem SameOutline.sameKind (same : SameOutline left right place) :
    SameKind left right place := by
  have shown := congrArg (Option.map Outline.isFile) same
  rwa [Option.map_map, Option.map_map] at shown

theorem SameKind.cases (same : SameKind left right place) :
    (left.standing? place = none ∧ right.standing? place = none) ∨
      (∃ text other, left.standing? place = some (.file text) ∧
        right.standing? place = some (.file other)) ∨
      ∃ entries others, left.standing? place = some (.directory entries) ∧
        right.standing? place = some (.directory others) := by
  unfold SameKind at same
  cases l : left.standing? place with
  | none =>
      rw [l] at same
      exact .inl ⟨rfl, Option.map_eq_none_iff.mp same.symm⟩
  | some here =>
      rw [l] at same
      obtain ⟨there, r, kind⟩ := Option.map_eq_some_iff.mp same.symm
      cases here <;> cases there
      case file.file => exact .inr (.inl ⟨_, _, rfl, r⟩)
      case directory.directory => exact .inr (.inr ⟨_, _, rfl, r⟩)
      all_goals contradiction

/-- A walk has come to a tree, with the directories above it, by names from the root. -/
inductive Reached (root : FileTree) : List String → FileTree → List FileTree → Prop
  | root : Reached root [] root []
  | child {reversed above entries name child} :
      Reached root reversed (.directory entries) above → entries.lookup name = some child →
        Reached root (name :: reversed) child (.directory entries :: above)

theorem Reached.standing (reached : Reached root reversed here above) :
    root.standing? reversed.reverse = some here := by
  induction reached with
  | root => rfl
  | child _ found ih =>
      rw [List.reverse_cons, standing?_append, ih]
      simp only [Option.bind_some, standing?, found]

/-- Follow components from a place by looking up every place on the way from the root. -/
def follow (root : FileTree) (reversed : List String) : List String → Except AccessError FileTree
  | [] =>
      match root.standing? reversed.reverse with
      | none => .error .notFound
      | some here => .ok here
  | name :: rest =>
      match root.standing? reversed.reverse with
      | none => .error .notFound
      | some (.file _) => .error .notDirectory
      | some (.directory _) => root.follow (descend reversed name) rest

theorem follow_of_absent (absent : root.standing? reversed.reverse = none)
    (components : List String) : root.follow reversed components = .error .notFound := by
  cases components <;> simp only [follow, absent]

theorem walk_eq_follow {components : List String} (reached : Reached root reversed here above) :
    walk above here components = root.follow reversed components := by
  induction components generalizing reversed here above with
  | nil => simp only [walk, follow, reached.standing]
  | cons name rest ih =>
      cases here with
      | file text => simp only [walk, follow, reached.standing]
      | directory entries =>
          simp only [walk, follow, reached.standing, descend]
          by_cases stays : name = "" ∨ name = "."
          · rw [if_pos stays, if_pos stays]
            exact ih reached
          by_cases up : name = ".."
          · rw [if_neg stays, if_neg stays, if_pos up, if_pos up]
            -- The directory above a child is the one that the names before its own lead to.
            cases reached with
            | root => exact ih .root
            | child parent found => exact ih parent
          rw [if_neg stays, if_neg stays, if_neg up, if_neg up]
          cases found : entries.lookup name with
          | some child => exact ih (.child reached found)
          | none =>
              refine (follow_of_absent ?_ rest).symm
              rw [List.reverse_cons, standing?_append, reached.standing]
              simp only [Option.bind_some, standing?, found, Option.bind_none]

theorem locate_eq_follow (nonempty : path ≠ "") :
    root.locate path = root.follow [] (Path.components path) := by
  have given : path.isEmpty = false := by simpa using nonempty
  rw [locate, given, if_neg Bool.false_ne_true, walk_eq_follow .root]

theorem follow_alike {components : List String}
    (passed : ∀ taken, taken <+: components → taken ≠ components →
      SameKind left right (taken.foldl descend reversed).reverse)
    (ended : SameOutline left right (components.foldl descend reversed).reverse) :
    (left.follow reversed components).map outline = (right.follow reversed components).map outline := by
  induction components generalizing reversed with
  | nil =>
      rw [List.foldl_nil, SameOutline] at ended
      simp only [follow]
      cases here : left.standing? reversed.reverse with
      | none =>
          rw [here] at ended
          rw [Option.map_eq_none_iff.mp ended.symm]
      | some tree =>
          rw [here] at ended
          obtain ⟨other, there, shown⟩ := Option.map_eq_some_iff.mp ended.symm
          rw [there]
          exact congrArg Except.ok shown.symm
  | cons name rest ih =>
      have kind := passed [] List.nil_prefix (List.cons_ne_nil _ _).symm
      have later (taken : List String) (before : taken <+: rest) (short : taken ≠ rest) :
          SameKind left right (taken.foldl descend (descend reversed name)).reverse :=
        passed (name :: taken) (List.cons_prefix_cons.mpr ⟨rfl, before⟩) (by simpa using short)
      rw [List.foldl_nil] at kind
      simp only [follow]
      rcases kind.cases with ⟨l, r⟩ | ⟨text, other, l, r⟩ | ⟨entries, others, l, r⟩
      · simp only [l, r]
      · simp only [l, r]
      · simp only [l, r]
        exact ih later ended

/-- Two trees show the same where a path ends, or fail to lead there in the same way. -/
def LooksAlike (left right : FileTree) (path : String) : Prop :=
  (left.locate path).map outline = (right.locate path).map outline

theorem looksAlike_of_places (passed : ∀ place, Path.Passes path place → SameKind left right place)
    (ended : SameOutline left right (Path.place path)) : LooksAlike left right path := by
  by_cases empty : path = ""
  · subst empty
    rfl
  rw [LooksAlike, locate_eq_follow empty, locate_eq_follow empty]
  exact follow_alike (fun taken before short => passed _ ⟨taken, before, short, rfl⟩) ended

/-- Two trees have the same kinds of things on the way of a path, and show the same at its end. -/
structure FollowedAlike (left right : FileTree) (path : String) : Prop where
  passed : ∀ place, Path.Passes path place → SameKind left right place
  ended : SameOutline left right (Path.place path)

theorem FollowedAlike.looksAlike (followed : FollowedAlike left right path) :
    LooksAlike left right path :=
  looksAlike_of_places followed.passed followed.ended

theorem FollowedAlike.join {name : String} (followed : FollowedAlike left right path)
    (plain : Path.Plain name) (ended : SameOutline left right (Path.place path ++ [name])) :
    FollowedAlike left right (Path.join path name) where
  passed := by
    intro place passes
    rcases (Path.passes_join plain).mp passes with passes | rfl
    · exact followed.passed place passes
    · exact followed.ended.sameKind
  ended := by rwa [Path.place_join plain]

theorem follow_eq_ok {components : List String} {tree : FileTree}
    (arrived : root.follow reversed components = .ok tree) :
    (∀ taken, taken <+: components → taken ≠ components →
        ∃ entries, root.standing? (taken.foldl descend reversed).reverse = some (.directory entries)) ∧
      root.standing? (components.foldl descend reversed).reverse = some tree := by
  induction components generalizing reversed with
  | nil =>
      simp only [follow] at arrived
      split at arrived
      · contradiction
      · cases arrived
        refine ⟨fun taken before short => ?_, by assumption⟩
        exact absurd (List.prefix_nil.mp before) short
  | cons name rest ih =>
      simp only [follow] at arrived
      split at arrived
      · contradiction
      · contradiction
      · rename_i entries here
        obtain ⟨passed, ended⟩ := ih arrived
        refine ⟨fun taken before short => ?_, ended⟩
        cases taken with
        | nil => exact ⟨entries, here⟩
        | cons first taken =>
            obtain ⟨rfl, inside⟩ := List.cons_prefix_cons.mp before
            exact passed taken inside (by simpa using short)

/-- A path that can be located passes directories only, and ends at its place. -/
theorem locate_eq_ok {tree : FileTree} (located : root.locate path = .ok tree) :
    (∀ place, Path.Passes path place → ∃ entries, root.standing? place = some (.directory entries)) ∧
      root.standing? (Path.place path) = some tree := by
  have nonempty : path ≠ "" := by
    rintro rfl
    contradiction
  rw [locate_eq_follow nonempty] at located
  obtain ⟨passed, ended⟩ := follow_eq_ok located
  refine ⟨?_, ended⟩
  rintro place ⟨taken, before, short, rfl⟩
  exact passed taken before short

theorem readText_eq_outline (root : FileTree) (path : String) :
    root.readText path =
      match (root.locate path).map outline with
      | .error failure => .error failure
      | .ok (.directory _) => .error .isDirectory
      | .ok (.file none) => .error .notText
      | .ok (.file (some text)) => .ok text := by
  unfold readText
  cases root.locate path with
  | error failure => rfl
  | ok tree =>
      cases tree with
      | directory entries => rfl
      | file text => cases text <;> rfl

theorem isDirectory_eq_outline (root : FileTree) (path : String) :
    root.isDirectory path =
      match (root.locate path).map outline with
      | .ok (.directory _) => true
      | _ => false := by
  unfold isDirectory
  cases root.locate path with
  | error failure => rfl
  | ok tree => cases tree <;> rfl

theorem numberedEntries_eq_outline (root : FileTree) (path : String) :
    root.numberedEntries path =
      match (root.locate path).map outline with
      | .ok (.directory numbered) => numbered
      | _ => [] := by
  unfold numberedEntries
  cases root.locate path with
  | error failure => rfl
  | ok tree => cases tree <;> rfl

namespace LooksAlike

variable (alike : LooksAlike left right path)

include alike

theorem readText : left.readText path = right.readText path := by
  rw [readText_eq_outline, readText_eq_outline, alike]

theorem readTrimmed : left.readTrimmed path = right.readTrimmed path := by
  rw [FileTree.readTrimmed, FileTree.readTrimmed, alike.readText]

theorem isDirectory : left.isDirectory path = right.isDirectory path := by
  rw [isDirectory_eq_outline, isDirectory_eq_outline, alike]

theorem numberedEntries : left.numberedEntries path = right.numberedEntries path := by
  rw [numberedEntries_eq_outline, numberedEntries_eq_outline, alike]

end LooksAlike

end FileTree

end ComputeTopology
