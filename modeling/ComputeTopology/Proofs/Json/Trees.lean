import Mathlib.Data.List.Basic
import ComputeTopology.Proofs.Json.Tokens

namespace ComputeTopology.Json

theorem exists_tokens (tree : Tree) :
    ∃ first rest, tree.tokens = first :: rest ∧ first ≠ .closeArray := by
  cases tree <;> rw [Tree.tokens] <;> exact ⟨_, _, rfl, by rintro ⟨⟩⟩

theorem itemTokens_cons (first : Tree) {rest : List Tree} (more : rest ≠ []) :
    itemTokens (first :: rest) = first.tokens ++ .comma :: itemTokens rest := by
  cases rest with
  | nil => contradiction
  | cons second rest => rw [itemTokens]

theorem memberTokens_cons (first : Member) {rest : List Member} (more : rest ≠ []) :
    memberTokens (first :: rest) =
      .text first.1 :: .colon :: (first.2.tokens ++ .comma :: memberTokens rest) := by
  cases rest with
  | nil => contradiction
  | cons second rest => rw [memberTokens]

namespace Reader

theorem foldlM_firstItem (frames : List Frame) {items : List Tree} (some : items ≠ [])
    (later : List Token) :
    (itemTokens items ++ later).foldlM step (.firstItem frames) =
      (itemTokens items ++ later).foldlM step (.anyValue (.array [] :: frames)) := by
  have begins : ∃ first rest, itemTokens items = first :: rest ∧ first ≠ .closeArray := by
    cases items with
    | nil => contradiction
    | cons tree others =>
        obtain ⟨first, rest, begins, notClosing⟩ := exists_tokens tree
        by_cases last : others = []
        · rw [last, itemTokens]
          exact ⟨first, rest, begins, notClosing⟩
        · rw [itemTokens_cons tree last, begins]
          exact ⟨first, _, rfl, notClosing⟩
  obtain ⟨first, rest, begins, notClosing⟩ := begins
  have same : step (.firstItem frames) first = step (.anyValue (.array [] :: frames)) first := by
    cases first <;> first | contradiction | rfl
  rw [begins, List.cons_append, List.foldlM_cons, List.foldlM_cons, same]

theorem foldlM_firstKey (frames : List Frame) {members : List Member} (some : members ≠ [])
    (later : List Token) :
    (memberTokens members ++ later).foldlM step (.firstKey frames) =
      (memberTokens members ++ later).foldlM step (.nextKey [] frames) := by
  cases members with
  | nil => contradiction
  | cons first rest =>
      by_cases last : rest = []
      · rw [last, memberTokens]
        rfl
      · rw [memberTokens_cons first last]
        rfl

theorem foldlM_key (key : Option String) (reversed : List Member) (frames : List Frame)
    (later : List Token) :
    (.text key :: .colon :: later).foldlM step (.nextKey reversed frames) =
      later.foldlM step (.anyValue (.object reversed key :: frames)) := rfl

mutual

/-- The tokens of a tree are read as that tree. -/
theorem foldlM_tokens (tree : Tree) (frames : List Frame) (later : List Token) :
    (tree.tokens ++ later).foldlM step (.anyValue frames) =
      later.foldlM step (close tree frames) := by
  cases tree with
  | null => rfl
  | bool value => rfl
  | number lexeme => rfl
  | text content => rfl
  | array items =>
      have opened : step (.anyValue frames) .openArray = some (.firstItem frames) := rfl
      rw [Tree.tokens, List.cons_append, List.append_assoc, List.foldlM_cons, opened,
        Option.bind_eq_bind, Option.bind_some]
      by_cases empty : items = []
      · rw [empty, itemTokens]
        rfl
      · rw [foldlM_firstItem frames empty, foldlM_itemTokens items empty, List.append_nil,
          List.singleton_append, List.foldlM_cons]
        simp only [step, List.reverse_reverse, Option.bind_eq_bind, Option.bind_some]
  | object members =>
      have opened : step (.anyValue frames) .openObject = some (.firstKey frames) := rfl
      rw [Tree.tokens, List.cons_append, List.append_assoc, List.foldlM_cons, opened,
        Option.bind_eq_bind, Option.bind_some]
      by_cases empty : members = []
      · rw [empty, memberTokens]
        rfl
      · rw [foldlM_firstKey frames empty, foldlM_memberTokens members empty, List.append_nil,
          List.singleton_append, List.foldlM_cons]
        simp only [step, List.reverse_reverse, Option.bind_eq_bind, Option.bind_some]

theorem foldlM_itemTokens (items : List Tree) (some : items ≠ []) (reversed : List Tree)
    (frames : List Frame) (later : List Token) :
    (itemTokens items ++ later).foldlM step (.anyValue (.array reversed :: frames)) =
      later.foldlM step (.afterItem (items.reverse ++ reversed) frames) := by
  cases items with
  | nil => contradiction
  | cons first rest =>
      by_cases last : rest = []
      · rw [last, itemTokens, foldlM_tokens first]
        rfl
      · rw [itemTokens_cons first last, List.append_assoc, foldlM_tokens first, List.cons_append,
          List.foldlM_cons]
        simp only [close, step, Option.bind_eq_bind, Option.bind_some]
        rw [foldlM_itemTokens rest last, List.reverse_cons, List.append_assoc,
          List.singleton_append]

theorem foldlM_memberTokens (members : List Member) (some : members ≠ []) (reversed : List Member)
    (frames : List Frame) (later : List Token) :
    (memberTokens members ++ later).foldlM step (.nextKey reversed frames) =
      later.foldlM step (.afterMember (members.reverse ++ reversed) frames) := by
  cases members with
  | nil => contradiction
  | cons first rest =>
      obtain ⟨key, value⟩ := first
      by_cases last : rest = []
      · rw [last, memberTokens, List.cons_append, List.cons_append, foldlM_key,
          foldlM_tokens value]
        rfl
      · rw [memberTokens_cons _ last, List.cons_append, List.cons_append, List.append_assoc,
          foldlM_key, foldlM_tokens value, List.cons_append, List.foldlM_cons]
        simp only [close, step, Option.bind_eq_bind, Option.bind_some]
        rw [foldlM_memberTokens rest last, List.reverse_cons, List.append_assoc,
          List.singleton_append]

end

end Reader

/-- The tokens of items that are followed by a comma each. -/
def openItemTokens (items : List Tree) : List Token :=
  items.flatMap (fun item => item.tokens ++ [.comma])

def openMemberTokens (members : List Member) : List Token :=
  members.flatMap (fun member => .text member.1 :: .colon :: (member.2.tokens ++ [.comma]))

theorem itemTokens_append (items : List Tree) (last : Tree) :
    itemTokens (items ++ [last]) = openItemTokens items ++ last.tokens := by
  induction items with
  | nil => rw [List.nil_append, itemTokens]; rfl
  | cons first rest ih =>
      have more : rest ++ [last] ≠ [] := by simp
      rw [List.cons_append, itemTokens_cons first more, ih]
      simp only [openItemTokens, List.flatMap_cons, List.append_assoc, List.cons_append,
        List.nil_append]

theorem memberTokens_append (members : List Member) (last : Member) :
    memberTokens (members ++ [last]) =
      openMemberTokens members ++ .text last.1 :: .colon :: last.2.tokens := by
  induction members with
  | nil => rw [List.nil_append, memberTokens]; rfl
  | cons first rest ih =>
      have more : rest ++ [last] ≠ [] := by simp
      rw [List.cons_append, memberTokens_cons first more, ih]
      simp only [openMemberTokens, List.flatMap_cons, List.append_assoc, List.cons_append,
        List.nil_append]

def Frame.tokens : Frame → List Token
  | .array reversed => .openArray :: openItemTokens reversed.reverse
  | .object reversed key =>
      .openObject :: (openMemberTokens reversed.reverse ++ [.text key, .colon])

/-- The tokens of frames, the outermost of which comes last. -/
def framesTokens : List Frame → List Token
  | [] => []
  | frame :: frames => framesTokens frames ++ frame.tokens

namespace Reader

/-- The tokens that lead to this state. -/
def seen : Reader → List Token
  | .anyValue frames => framesTokens frames
  | .firstItem frames => framesTokens frames ++ [.openArray]
  | .firstKey frames => framesTokens frames ++ [.openObject]
  | .nextKey reversed frames =>
      framesTokens frames ++ .openObject :: openMemberTokens reversed.reverse
  | .colon key reversed frames =>
      framesTokens frames ++ .openObject :: (openMemberTokens reversed.reverse ++ [.text key])
  | .afterItem reversed frames => framesTokens frames ++ .openArray :: itemTokens reversed.reverse
  | .afterMember reversed frames =>
      framesTokens frames ++ .openObject :: memberTokens reversed.reverse
  | .complete tree => tree.tokens

/-- After an item or a member there is one. -/
def Sensible : Reader → Prop
  | .afterItem reversed _ => reversed ≠ []
  | .afterMember reversed _ => reversed ≠ []
  | _ => True

theorem sensible_close (tree : Tree) (frames : List Frame) : (close tree frames).Sensible := by
  cases frames with
  | nil => trivial
  | cons frame frames => cases frame <;> exact List.cons_ne_nil _ _

theorem seen_close (tree : Tree) (frames : List Frame) :
    (close tree frames).seen = framesTokens frames ++ tree.tokens := by
  cases frames with
  | nil => rfl
  | cons frame frames =>
      cases frame with
      | array reversed =>
          simp only [close, seen, framesTokens, Frame.tokens, List.reverse_cons, itemTokens_append,
            List.append_assoc, List.cons_append]
      | object reversed key =>
          simp only [close, seen, framesTokens, Frame.tokens, List.reverse_cons,
            memberTokens_append, List.append_assoc, List.cons_append, List.nil_append]

theorem seen_beginValue {frames : List Frame} {token : Token} {next : Reader}
    (began : beginValue frames token = some next) :
    next.seen = framesTokens frames ++ [token] ∧ next.Sensible := by
  cases token with
  | null => cases began; exact ⟨by rw [seen_close, Tree.tokens], sensible_close _ _⟩
  | bool value => cases began; exact ⟨by rw [seen_close, Tree.tokens], sensible_close _ _⟩
  | number lexeme => cases began; exact ⟨by rw [seen_close, Tree.tokens], sensible_close _ _⟩
  | text content => cases began; exact ⟨by rw [seen_close, Tree.tokens], sensible_close _ _⟩
  | openArray => cases began; exact ⟨rfl, trivial⟩
  | openObject => cases began; exact ⟨rfl, trivial⟩
  | _ => contradiction

theorem itemTokens_comma {reversed : List Tree} (some : reversed ≠ []) :
    itemTokens reversed.reverse ++ [.comma] = openItemTokens reversed.reverse := by
  cases reversed with
  | nil => contradiction
  | cons last others =>
      rw [List.reverse_cons, itemTokens_append]
      simp only [openItemTokens, List.flatMap_append, List.flatMap_cons, List.flatMap_nil,
        List.append_assoc, List.append_nil]

theorem memberTokens_comma {reversed : List Member} (some : reversed ≠ []) :
    memberTokens reversed.reverse ++ [.comma] = openMemberTokens reversed.reverse := by
  cases reversed with
  | nil => contradiction
  | cons last others =>
      rw [List.reverse_cons, memberTokens_append]
      simp only [openMemberTokens, List.flatMap_append, List.flatMap_cons, List.flatMap_nil,
        List.append_assoc, List.append_nil, List.cons_append]

/-- Every step adds its token to what the reader has seen. -/
theorem seen_step {reader next : Reader} {token : Token} (sensible : reader.Sensible)
    (stepped : reader.step token = some next) :
    next.seen = reader.seen ++ [token] ∧ next.Sensible := by
  unfold step at stepped
  split at stepped
  · exact seen_beginValue stepped
  · cases stepped
    refine ⟨?_, sensible_close _ _⟩
    rw [seen_close, Tree.tokens, itemTokens]
    simp only [seen, List.append_assoc, List.nil_append, List.singleton_append]
  · obtain ⟨same, still⟩ := seen_beginValue stepped
    exact ⟨same, still⟩
  · cases stepped
    refine ⟨?_, sensible_close _ _⟩
    rw [seen_close, Tree.tokens, memberTokens]
    simp only [seen, List.append_assoc, List.nil_append, List.singleton_append]
  · cases stepped
    refine ⟨?_, trivial⟩
    simp only [seen, openMemberTokens, List.reverse_nil, List.flatMap_nil, List.nil_append,
      List.append_assoc, List.singleton_append]
  · cases stepped
    refine ⟨?_, trivial⟩
    simp only [seen, List.append_assoc, List.cons_append]
  · cases stepped
    refine ⟨?_, trivial⟩
    simp only [seen, framesTokens, Frame.tokens, List.append_assoc, List.cons_append,
      List.nil_append]
  · cases stepped
    refine ⟨?_, trivial⟩
    simp only [seen, framesTokens, Frame.tokens, ← itemTokens_comma sensible, List.append_assoc,
      List.cons_append]
  · cases stepped
    refine ⟨?_, sensible_close _ _⟩
    rw [seen_close, Tree.tokens]
    simp only [seen, List.append_assoc, List.cons_append]
  · cases stepped
    refine ⟨?_, trivial⟩
    simp only [seen, ← memberTokens_comma sensible, List.append_assoc, List.cons_append]
  · cases stepped
    refine ⟨?_, sensible_close _ _⟩
    rw [seen_close, Tree.tokens]
    simp only [seen, List.append_assoc, List.cons_append]
  · contradiction

theorem seen_foldlM {reader last : Reader} {tokens : List Token} (sensible : reader.Sensible)
    (read : tokens.foldlM step reader = some last) : last.seen = reader.seen ++ tokens := by
  induction tokens generalizing reader with
  | nil =>
      cases read
      exact (List.append_nil _).symm
  | cons token rest ih =>
      rw [List.foldlM_cons] at read
      obtain ⟨next, stepped, read⟩ := Option.bind_eq_some_iff.mp read
      -- Every state on the way is sensible, which is what a step relies on.
      obtain ⟨grown, still⟩ := seen_step sensible stepped
      rw [ih still read, grown, List.append_assoc, List.singleton_append]

/-- The tokens that are read as a tree are its own. -/
theorem read_eq_some_iff {tokens : List Token} {tree : Tree} :
    (tokens.foldlM step (.anyValue [])).bind finish = some tree ↔ tokens = tree.tokens := by
  constructor
  · intro read
    obtain ⟨last, read, finished⟩ := Option.bind_eq_some_iff.mp read
    cases last with
    | complete whole =>
        cases finished
        have sensible : (Reader.anyValue []).Sensible := trivial
        exact (seen_foldlM sensible read).symm
    | _ => contradiction
  · rintro rfl
    have read := foldlM_tokens tree [] []
    rw [List.append_nil] at read
    rw [read]
    rfl

end Reader

/-- A text is read as a tree exactly if it spells that tree. -/
theorem parse?_eq_some_iff {text : List Char} {tree : Tree} :
    parse? text = some tree ↔ Spells text tree := by
  unfold parse? Spells
  rw [Option.bind_eq_some_iff]
  constructor
  · rintro ⟨tokens, scanned, read⟩
    rw [← Reader.read_eq_some_iff.mp read]
    exact tokens?_eq_some_iff.mp scanned
  · intro spelled
    exact ⟨tree.tokens, tokens?_eq_some_iff.mpr spelled, Reader.read_eq_some_iff.mpr rfl⟩

end ComputeTopology.Json
