import Mathlib.Data.List.Basic
import Mathlib.Data.List.Count
import Mathlib.Data.List.Induction

namespace ComputeTopology

section Deciding

variable {α β : Type} {gives : α → β → Prop} {items : List α} {item : α} {value : β}

/-- The first item that gives anything gives this. -/
def FirstGives (gives : α → β → Prop) (items : List α) (value : β) : Prop :=
  ∃ before item after, items = before ++ item :: after ∧ gives item value ∧
    ∀ earlier ∈ before, ∀ other, ¬gives earlier other

/-- The last item that gives anything gives this. -/
def LastGives (gives : α → β → Prop) (items : List α) (value : β) : Prop :=
  ∃ before item after, items = before ++ item :: after ∧ gives item value ∧
    ∀ later ∈ after, ∀ other, ¬gives later other

theorem lastGives_iff_reverse : LastGives gives items value ↔ FirstGives gives items.reverse value := by
  constructor
  · rintro ⟨before, item, after, rfl, decides, silent⟩
    exact ⟨after.reverse, item, before.reverse, by simp, decides,
      fun later member => silent later (List.mem_reverse.mp member)⟩
  · rintro ⟨after, item, before, turned, decides, silent⟩
    refine ⟨before.reverse, item, after.reverse, ?_, decides,
      fun later member => silent later (List.mem_reverse.mp member)⟩
    rw [← List.reverse_reverse items, turned]
    simp

theorem not_lastGives_nil : ¬LastGives gives [] value := by
  rintro ⟨before, item, after, split, _⟩
  simp at split

/-- An item at the end decides, unless it gives nothing. -/
theorem lastGives_concat :
    LastGives gives (items ++ [item]) value ↔
      gives item value ∨ (∀ other, ¬gives item other) ∧ LastGives gives items value := by
  constructor
  · rintro ⟨before, decisive, after, split, decides, silent⟩
    rcases List.eq_nil_or_concat' after with rfl | ⟨others, last, rfl⟩
    · obtain ⟨_, same⟩ := List.append_inj' split rfl
      cases same
      exact .inl decides
    · rw [← List.cons_append, ← List.append_assoc] at split
      obtain ⟨rfl, same⟩ := List.append_inj' split rfl
      cases same
      obtain ⟨silentBefore, silentLast⟩ := List.forall_mem_append.mp silent
      exact .inr ⟨silentLast item (List.mem_singleton_self item), before, decisive, others, rfl,
        decides, silentBefore⟩
  · rintro (decides | ⟨passed, before, decisive, after, rfl, decides, silent⟩)
    · exact ⟨items, item, [], rfl, decides, by simp⟩
    · refine ⟨before, decisive, after ++ [item], by simp, decides, ?_⟩
      exact List.forall_mem_append.mpr ⟨silent, List.forall_mem_singleton.mpr passed⟩

theorem LastGives.exists_mem (last : LastGives gives items value) :
    ∃ item ∈ items, gives item value := by
  obtain ⟨before, item, after, rfl, decides, _⟩ := last
  exact ⟨item, List.mem_append_right _ List.mem_cons_self, decides⟩

/-- If any item gives anything, there is a last one. -/
theorem exists_lastGives_iff :
    (∃ value, LastGives gives items value) ↔ ∃ item ∈ items, ∃ value, gives item value := by
  induction items using List.reverseRecOn with
  | nil => simp [not_lastGives_nil]
  | append_singleton items item ih =>
      simp only [lastGives_concat]
      by_cases silent : ∀ other, ¬gives item other
      · simp [silent, ih]
      · obtain ⟨value, decides⟩ := not_forall_not.mp silent
        exact iff_of_true ⟨value, .inl decides⟩ ⟨item, by simp, value, decides⟩

/-- Where all items that give anything give the same, any of them may decide. -/
theorem lastGives_iff_mem
    (agree : ∀ item ∈ items, ∀ other ∈ items, ∀ value found,
      gives item value → gives other found → value = found) :
    LastGives gives items value ↔ ∃ item ∈ items, gives item value := by
  constructor
  · exact LastGives.exists_mem
  · intro ⟨item, member, given⟩
    obtain ⟨found, last⟩ := exists_lastGives_iff.mpr ⟨item, member, value, given⟩
    obtain ⟨other, inside, decides⟩ := last.exists_mem
    rwa [agree item member other inside value found given decides]

theorem lastGives_filter {keep : α → Bool}
    (kept : ∀ item value, gives item value → keep item = true) :
    LastGives gives (items.filter keep) value ↔ LastGives gives items value := by
  induction items using List.reverseRecOn with
  | nil => rfl
  | append_singleton items item ih =>
      rw [List.filter_append]
      cases keeps : keep item with
      | true => rw [List.filter_cons_of_pos keeps, List.filter_nil, lastGives_concat, lastGives_concat, ih]
      | false =>
          have silent : ∀ other, ¬gives item other := fun other given => by
            rw [kept item other given] at keeps
            contradiction
          rw [List.filter_cons_of_neg (by simp [keeps]), List.filter_nil, List.append_nil, ih,
            lastGives_concat]
          simp [silent]

/-- A part of a state that starts empty, and that every step replaces by what its item gives, if
    it gives anything, ends up with what the last item gives. -/
theorem foldl_eq_some_iff {σ : Type} (part : σ → Option β) {step : σ → α → σ} {start : σ}
    {given? : α → Option β} (empty : part start = none)
    (replaces : ∀ state item, part (step state item) = (given? item).or (part state)) :
    part (items.foldl step start) = some value ↔
      LastGives (fun item value => given? item = some value) items value := by
  induction items using List.reverseRecOn with
  | nil => simp [empty, not_lastGives_nil]
  | append_singleton items item ih =>
      rw [List.foldl_concat, replaces, lastGives_concat, ← ih]
      cases given? item <;> simp

end Deciding

variable {κ β : Type} [BEq κ] [LawfulBEq κ] {pairs others before after : List (κ × β)} {key other : κ}
  {value : β}

theorem lookup_eq_none_iff : pairs.lookup key = none ↔ key ∉ pairs.map Prod.fst := by
  simp only [List.lookup_eq_none_iff, bne_iff_ne, ne_eq, List.mem_map, not_exists, not_and]
  exact ⟨fun absent pair inside same => absent pair inside same.symm,
    fun absent pair inside same => absent pair inside same.symm⟩

/-- The only pair with a key is the one that is found. -/
theorem lookup_eq_some_iff (once : (pairs.map Prod.fst).count key ≤ 1) :
    pairs.lookup key = some value ↔ (key, value) ∈ pairs := by
  induction pairs with
  | nil => simp
  | cons pair rest ih =>
      obtain ⟨other, held⟩ := pair
      by_cases same : key = other
      · subst same
        have absent : key ∉ rest.map Prod.fst := by
          rw [List.map_cons, List.count_cons_self] at once
          exact List.count_eq_zero.mp (by omega)
        have elsewhere : (key, value) ∉ rest := fun inside =>
          absent (List.mem_map.mpr ⟨(key, value), inside, rfl⟩)
        simp [List.lookup_cons_self, elsewhere, eq_comm]
      · have unequal : (key == other) = false := beq_eq_false_iff_ne.mpr same
        rw [List.map_cons, List.count_cons_of_ne (Ne.symm same)] at once
        simp [List.lookup_cons, unequal, ih once, same]

theorem lookup_perm (once : (pairs.map Prod.fst).count key ≤ 1) (order : pairs.Perm others) :
    pairs.lookup key = others.lookup key := by
  have still : (others.map Prod.fst).count key ≤ 1 := by
    rwa [← (order.map Prod.fst).count_eq]
  ext value
  rw [lookup_eq_some_iff once, lookup_eq_some_iff still, order.mem_iff]

theorem lookup_middle (first : key ∉ before.map Prod.fst) :
    (before ++ (key, value) :: after).lookup key = some value := by
  rw [List.lookup_append, lookup_eq_none_iff.mpr first, List.lookup_cons_self, Option.none_or]

theorem lookup_beside (beside : other ≠ key) :
    (before ++ (key, value) :: after).lookup other = (before ++ after).lookup other := by
  have passed : (other == key) = false := beq_false_of_ne beside
  rw [List.lookup_append, List.lookup_append, List.lookup_cons, passed]

section Items

variable {α : Type} {pair? : α → Option (κ × β)} {items : List α}

theorem pair?_bind_eq_some_iff {item : α} :
    ((pair? item).bind fun pair => if key == pair.1 then some pair.2 else none) = some value ↔
      pair? item = some (key, value) := by
  cases pair? item with
  | none => simp
  | some pair =>
      obtain ⟨other, held⟩ := pair
      by_cases same : key = other
      · simp [same]
      · simp [same, Ne.symm same]

omit [LawfulBEq κ] in
theorem lookup_filterMap (pair? : α → Option (κ × β)) (items : List α) (key : κ) :
    (items.filterMap pair?).lookup key =
      items.findSome? fun item =>
        (pair? item).bind fun pair => if key == pair.1 then some pair.2 else none := by
  induction items with
  | nil => rfl
  | cons item rest ih =>
      cases found : pair? item with
      | none => simp [List.filterMap_cons_none found, found, ih]
      | some pair =>
          rw [List.filterMap_cons_some found, List.lookup_cons, List.findSome?_cons, found, ih]
          cases same : key == pair.1 <;> simp [same]

/-- The first item that gives a value to the key decides. -/
theorem lookup_filterMap_eq_some_iff :
    (items.filterMap pair?).lookup key = some value ↔
      FirstGives (fun item value => pair? item = some (key, value)) items value := by
  simp only [FirstGives, lookup_filterMap, List.findSome?_eq_some_iff, pair?_bind_eq_some_iff,
    Option.eq_none_iff_forall_ne_some, ne_eq]

/-- The last item that gives a value to the key decides. -/
theorem lookup_reverse_filterMap_eq_some_iff :
    (items.filterMap pair?).reverse.lookup key = some value ↔
      LastGives (fun item value => pair? item = some (key, value)) items value := by
  rw [← List.filterMap_reverse, lookup_filterMap_eq_some_iff, lastGives_iff_reverse]

end Items

end ComputeTopology
