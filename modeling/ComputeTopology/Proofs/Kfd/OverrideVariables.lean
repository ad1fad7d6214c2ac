import Mathlib.Data.List.Nodup
import ComputeTopology.Kfd.Overrides
import ComputeTopology.Proofs.Lookup
import ComputeTopology.Proofs.Text.Numerals

namespace ComputeTopology.Kfd.Overrides

variable {assignments others : List (String × String)} {assignment : String × String}
  {node : UInt32} {named value : String}

/-- A variable is for a node: what follows its underscore is a numeral of the node's number. -/
def IsFor (node : UInt32) (named : String) : Prop :=
  ∃ numeral, named = variableName ++ "_" ++ numeral ∧
    Text.Numeral.Denotes 10 numeral.toList (Word.toNat node)

/-- The value is assigned to a variable for this node. -/
def AssignsNode (node : UInt32) (assignment : String × String) (value : String) : Prop :=
  IsFor node assignment.1 ∧ assignment.2 = value

/-- The value is assigned to the variable for all nodes. -/
def AssignsAll (assignment : String × String) (value : String) : Prop :=
  assignment.1 = variableName ∧ assignment.2 = value

/-- The value is what overrides the version of a node: it is assigned to the node last, or it is
    assigned to all nodes last and none is to this one. -/
def Prevails (assignments : List (String × String)) (node : UInt32) (value : String) : Prop :=
  LastGives (AssignsNode node) assignments value ∨
    (∀ assignment ∈ assignments, ¬IsFor node assignment.1) ∧
      LastGives AssignsAll assignments value

section Names

theorem nodeOf?_eq_some_iff : nodeOf? named = some node ↔ IsFor node named := by
  unfold nodeOf? IsFor
  dsimp only
  constructor
  · intro found
    split at found
    · rename_i begins
      obtain ⟨numeral, whole⟩ := List.isPrefixOf_iff_prefix.mp begins
      rw [← whole, List.drop_left, Text.Numeral.word?_eq_some_iff] at found
      refine ⟨String.ofList numeral, String.toList_injective ?_, ?_⟩
      · rw [String.toList_append, String.toList_ofList, whole]
      · rwa [String.toList_ofList]
    · contradiction
  · intro ⟨numeral, same, denotes⟩
    have whole : (variableName ++ "_").toList ++ numeral.toList = named.toList := by
      rw [same, ← String.toList_append]
    have begins := List.isPrefixOf_iff_prefix.mpr (Exists.intro numeral.toList whole)
    rw [if_pos begins, ← whole, List.drop_left, Text.Numeral.word?_eq_some_iff]
    exact denotes

instance (node : UInt32) (named : String) : Decidable (IsFor node named) :=
  decidable_of_iff _ nodeOf?_eq_some_iff

/-- The variable for all nodes is for no single one. -/
theorem not_isFor_variableName (node : UInt32) : ¬IsFor node variableName := by
  intro ⟨numeral, same, _⟩
  have length := congrArg String.length same
  simp only [String.length_append] at length
  have underscore : "_".length = 1 := rfl
  omega

/-- A variable that has a say in the version of a node. -/
def Concerns (node : UInt32) (named : String) : Prop :=
  named = variableName ∨ IsFor node named

instance (node : UInt32) (named : String) : Decidable (Concerns node named) :=
  inferInstanceAs (Decidable (_ ∨ _))

end Names

section Assigning

theorem lookup_assign_self (node : UInt32) (value : String) (pairs : List (UInt32 × String)) :
    (assign node value pairs).lookup node = some value := by
  induction pairs with
  | nil => exact List.lookup_cons_self
  | cons pair rest ih =>
      obtain ⟨taken, found⟩ := pair
      unfold assign
      split
      · exact List.lookup_cons_self
      · split
        · exact List.lookup_cons_self
        · rename_i different
          rw [List.lookup_cons, beq_false_of_ne different]
          exact ih

theorem lookup_assign_of_ne {node other : UInt32} (different : other ≠ node) (value : String)
    (pairs : List (UInt32 × String)) :
    (assign node value pairs).lookup other = pairs.lookup other := by
  have passed : (other == node) = false := beq_false_of_ne different
  induction pairs with
  | nil => rw [assign, List.lookup_cons, passed]
  | cons pair rest ih =>
      obtain ⟨taken, found⟩ := pair
      unfold assign
      split
      · rw [List.lookup_cons, passed]
      · split
        · rename_i replaced
          rw [List.lookup_cons, List.lookup_cons, ← replaced, passed]
        · rw [List.lookup_cons, List.lookup_cons, ih]

/-- What an assignment does to the value for a node. -/
theorem lookup_perNode_take (overrides : Overrides) (assignment : String × String)
    (node : UInt32) :
    (overrides.take assignment).perNode.lookup node =
      (if IsFor node assignment.1 then some assignment.2 else none).or
        (overrides.perNode.lookup node) := by
  obtain ⟨named, value⟩ := assignment
  unfold take
  dsimp only
  by_cases general : named = variableName
  · rw [if_pos general, general, if_neg (not_isFor_variableName node), Option.none_or]
  · rw [if_neg general]
    cases owner : nodeOf? named with
    | none =>
        have apart : ¬IsFor node named := fun isFor => by
          rw [nodeOf?_eq_some_iff.mpr isFor] at owner
          contradiction
        rw [if_neg apart, Option.none_or]
    | some other =>
        have isFor : IsFor node named ↔ node = other := by
          rw [← nodeOf?_eq_some_iff, owner, Option.some.injEq, eq_comm]
        by_cases same : node = other
        · rw [if_pos (isFor.mpr same), same, lookup_assign_self, Option.some_or]
        · rw [if_neg (mt isFor.mp same), Option.none_or, lookup_assign_of_ne same]

/-- What an assignment does to the value for all nodes. -/
theorem global_take (overrides : Overrides) (assignment : String × String) :
    (overrides.take assignment).global =
      (if assignment.1 = variableName then some assignment.2 else none).or overrides.global := by
  obtain ⟨named, value⟩ := assignment
  unfold take
  dsimp only
  by_cases general : named = variableName
  · rw [if_pos general, if_pos general, Option.some_or]
  · rw [if_neg general, if_neg general, Option.none_or]
    cases nodeOf? named <;> rfl

theorem lookup_perNode_ofVariables :
    (ofVariables assignments).perNode.lookup node = some value ↔
      LastGives (AssignsNode node) assignments value := by
  have gives : AssignsNode node = fun (assignment : String × String) (value : String) =>
      (if IsFor node assignment.1 then some assignment.2 else none) = some value := by
    funext assignment value
    simp [AssignsNode]
  rw [gives, ofVariables]
  refine foldl_eq_some_iff (fun overrides : Overrides => overrides.perNode.lookup node) rfl ?_
  exact fun overrides assignment => lookup_perNode_take overrides assignment node

theorem global_ofVariables :
    (ofVariables assignments).global = some value ↔ LastGives AssignsAll assignments value := by
  have gives : AssignsAll = fun (assignment : String × String) (value : String) =>
      (if assignment.1 = variableName then some assignment.2 else none) = some value := by
    funext assignment value
    simp [AssignsAll]
  rw [gives, ofVariables]
  exact foldl_eq_some_iff Overrides.global rfl global_take

theorem exists_lastGives_node_iff :
    (∃ value, LastGives (AssignsNode node) assignments value) ↔
      ∃ assignment ∈ assignments, IsFor node assignment.1 := by
  rw [exists_lastGives_iff]
  simp only [AssignsNode, exists_and_left, exists_eq', and_true]

/-- A node is overridden by the value that prevails, and by none if none does. -/
theorem forNode_eq_some_iff :
    (ofVariables assignments).forNode node = some value ↔ Prevails assignments node value := by
  have unassigned : (ofVariables assignments).perNode.lookup node = none ↔
      ∀ assignment ∈ assignments, ¬IsFor node assignment.1 := by
    rw [Option.eq_none_iff_forall_ne_some, ← not_iff_not]
    simp only [ne_eq, lookup_perNode_ofVariables, not_forall, not_not, exists_prop,
      exists_lastGives_node_iff]
  rw [forNode, Option.or_eq_some_iff, lookup_perNode_ofVariables, unassigned, global_ofVariables,
    Prevails]

theorem Prevails.unique (prevails : Prevails assignments node value) {other : String}
    (prevailsToo : Prevails assignments node other) : value = other := by
  rw [← forNode_eq_some_iff] at prevails prevailsToo
  exact Option.some.inj (prevails.symm.trans prevailsToo)

/-- Variables that do not concern a node may be left out. -/
theorem forNode_concerning (assignments : List (String × String)) (node : UInt32) :
    (ofVariables (assignments.filter (Concerns node ·.1))).forNode node =
      (ofVariables assignments).forNode node := by
  have own : ∀ (assignment : String × String) (value : String), AssignsNode node assignment value →
      decide (Concerns node assignment.1) = true :=
    fun _ _ given => decide_eq_true (.inr given.1)
  have general : ∀ (assignment : String × String) (value : String), AssignsAll assignment value →
      decide (Concerns node assignment.1) = true :=
    fun _ _ given => decide_eq_true (.inl given.1)
  have unassigned : (∀ assignment ∈ assignments.filter (Concerns node ·.1),
        ¬IsFor node assignment.1) ↔
      ∀ assignment ∈ assignments, ¬IsFor node assignment.1 := by
    simp only [List.mem_filter, Concerns]
    grind
  ext value
  rw [forNode_eq_some_iff, forNode_eq_some_iff, Prevails, Prevails, lastGives_filter own,
    lastGives_filter general, unassigned]

theorem forNode_of_concerning
    (same : assignments.filter (Concerns node ·.1) = others.filter (Concerns node ·.1)) :
    (ofVariables others).forNode node = (ofVariables assignments).forNode node := by
  rw [← forNode_concerning, ← same, forNode_concerning]

end Assigning

section Orders

/-- An assignment to a node prevails if it is moved to the end. -/
theorem exists_order_ending_with (member : assignment ∈ assignments)
    (isFor : IsFor node assignment.1) :
    ∃ others, assignments.Perm others ∧
      (ofVariables others).forNode node = some assignment.2 := by
  obtain ⟨before, after, rfl⟩ := List.append_of_mem member
  refine ⟨before ++ after ++ [assignment],
    List.perm_middle.trans (List.perm_append_singleton assignment (before ++ after)).symm, ?_⟩
  exact forNode_eq_some_iff.mpr (.inl (lastGives_concat.mpr (.inl ⟨isFor, rfl⟩)))

/-- No two assignments to a node differ. -/
def Agree (assignments : List (String × String)) (node : UInt32) : Prop :=
  ∀ first ∈ assignments, ∀ second ∈ assignments, IsFor node first.1 → IsFor node second.1 →
    first.2 = second.2

theorem prevails_iff_mem (once : (assignments.map Prod.fst).Nodup) (agree : Agree assignments node) :
    Prevails assignments node value ↔
      (∃ assignment ∈ assignments, AssignsNode node assignment value) ∨
        (∀ assignment ∈ assignments, ¬IsFor node assignment.1) ∧
          ∃ assignment ∈ assignments, AssignsAll assignment value := by
  have own : LastGives (AssignsNode node) assignments value ↔
      ∃ assignment ∈ assignments, AssignsNode node assignment value := by
    apply lastGives_iff_mem
    intro first member second inside one two given givenToo
    rw [← given.2, ← givenToo.2]
    exact agree first member second inside given.1 givenToo.1
  have general : LastGives AssignsAll assignments value ↔
      ∃ assignment ∈ assignments, AssignsAll assignment value := by
    apply lastGives_iff_mem
    intro (name, one) member (other, two) inside value found given givenToo
    obtain ⟨rfl, rfl⟩ := given
    obtain ⟨rfl, rfl⟩ := givenToo
    have single := List.nodup_iff_count_le_one.mp once variableName
    have first := (lookup_eq_some_iff single).mpr member
    have second := (lookup_eq_some_iff single).mpr inside
    exact Option.some.inj (first.symm.trans second)
  rw [Prevails, own, general]

/-- The number of a node is written in one way at most. -/
def WrittenOnce (assignments : List (String × String)) (node : UInt32) : Prop :=
  ∀ first ∈ assignments, ∀ second ∈ assignments, IsFor node first.1 → IsFor node second.1 →
    first.1 = second.1

theorem WrittenOnce.agree (once : (assignments.map Prod.fst).Nodup)
    (written : WrittenOnce assignments node) : Agree assignments node := by
  intro first member second inside isFor isForToo
  have same := written first member second inside isFor isForToo
  rw [List.inj_on_of_nodup_map once member inside same]

theorem forNode_perm (once : (assignments.map Prod.fst).Nodup) (agree : Agree assignments node)
    (order : assignments.Perm others) :
    (ofVariables others).forNode node = (ofVariables assignments).forNode node := by
  have onceToo := (order.map Prod.fst).nodup_iff.mp once
  have agreeToo : Agree others node := fun first member second inside =>
    agree first (order.mem_iff.mpr member) second (order.mem_iff.mpr inside)
  ext value
  rw [forNode_eq_some_iff, forNode_eq_some_iff, prevails_iff_mem onceToo agreeToo,
    prevails_iff_mem once agree]
  simp only [order.mem_iff]

/-- In an environment, where every variable has one value, a node is overridden alike in every
    order if and only if all variables for the node have the same value. So it is if the
    number of the node is written in one way only. -/
theorem same_in_every_order_iff (once : (assignments.map Prod.fst).Nodup) :
    ((∀ others, assignments.Perm others →
        (ofVariables others).forNode node = (ofVariables assignments).forNode node) ↔
      Agree assignments node) ∧
      (WrittenOnce assignments node → ∀ others, assignments.Perm others →
        (ofVariables others).forNode node = (ofVariables assignments).forNode node) := by
  refine ⟨⟨fun same => ?_, fun agree others order => forNode_perm once agree order⟩,
    fun written others order => forNode_perm once (written.agree once) order⟩
  intro first member second inside isFor isForToo
  obtain ⟨one, order, ends⟩ := exists_order_ending_with member isFor
  obtain ⟨two, orderToo, endsToo⟩ := exists_order_ending_with inside isForToo
  have alike := (same one order).trans (same two orderToo).symm
  rw [ends, endsToo] at alike
  exact Option.some.inj alike

/-- The number of a node is written in two ways, with the same value, so that it goes before the
    value for all nodes in every order. -/
theorem same_in_every_order_of_zeros :
    let environment := [("HSA_OVERRIDE_GFX_VERSION_1", "9.0.10"),
      ("HSA_OVERRIDE_GFX_VERSION", "10.3.0"), ("HSA_OVERRIDE_GFX_VERSION_01", "9.0.10"),
      ("HSA_OVERRIDE_GFX_VERSION_2", "11.0.0")]
    (environment.map Prod.fst).Nodup ∧ Agree environment 1 ∧
      ∀ others, environment.Perm others → (ofVariables others).forNode 1 = some "9.0.10" := by
  intro environment
  have once : (environment.map Prod.fst).Nodup := by decide
  have agree : Agree environment 1 := by
    unfold Agree
    decide +kernel
  have value : (ofVariables environment).forNode 1 = some "9.0.10" := by decide +kernel
  obtain ⟨alike, _⟩ := @same_in_every_order_iff environment 1 once
  exact ⟨once, agree, fun others order => (alike.mpr agree others order).trans value⟩

/-- Two variables with different names are for the same node, and the one that is listed last
    counts. -/
theorem order_decides_between_spellings :
    let environment := [("HSA_OVERRIDE_GFX_VERSION_1", "9.0.10"),
      ("HSA_OVERRIDE_GFX_VERSION_+1", "10.3.0")]
    (environment.map Prod.fst).Nodup ∧ environment.Perm environment.reverse ∧
      (ofVariables environment).forNode 1 ≠ (ofVariables environment.reverse).forNode 1 := by
  intro environment
  exact ⟨by decide, (List.reverse_perm environment).symm, by decide +kernel⟩

end Orders

end ComputeTopology.Kfd.Overrides
