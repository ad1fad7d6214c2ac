import ComputeTopology.Proofs.ReportText.Sections
import ComputeTopology.Proofs.Text.Decimal
import ComputeTopology.Proofs.Text.Pieces

namespace ComputeTopology

namespace ReportText

open Text.Numeral

/-- A text without a line feed. -/
def OneLine (text : String) : Prop :=
  '\n' ∉ text.toList

instance (text : String) : Decidable (OneLine text) :=
  inferInstanceAs (Decidable (¬_))

theorem toList_ofLines_cons (line : String) (rest : List String) :
    (ofLines (line :: rest)).toList = line.toList ++ '\n' :: (ofLines rest).toList := by
  simp [ofLines_cons]

@[simp] theorem oneLine_append {front back : String} :
    OneLine (front ++ back) ↔ OneLine front ∧ OneLine back := by
  simp [OneLine]

@[simp] theorem oneLine_decimal (value : Nat) : OneLine (decimal value) :=
  not_mem_decimal (by decide) value

@[simp] theorem oneLine_prefixedHex (value : Nat) : OneLine (prefixedHex value) := by
  refine oneLine_append.mpr ⟨by decide, fun member => ?_⟩
  rw [hex, String.toList_ofList] at member
  obtain ⟨digit, small, same⟩ := mem_toDigits (by decide) member
  exact absurd same (by decide +revert)

@[simp] theorem oneLine_orElse {α : Type} {placeholder : String} {text : α → String}
    (empty : OneLine placeholder) (whole : ∀ figure, OneLine (text figure)) (figure : Option α) :
    OneLine (orElse placeholder text figure) := by
  cases figure with
  | none => exact empty
  | some figure => exact whole figure

@[simp] theorem oneLine_padRight {width : Nat} {text : String} :
    OneLine (padRight width text) ↔ OneLine text := by
  have blanks : OneLine (String.ofList (List.replicate (width - text.length) ' ')) := by
    simp [OneLine]
  simp only [padRight, oneLine_append, blanks, and_true]

@[simp] theorem oneLine_regionLabel (region : MemoryRegion) : OneLine (regionLabel region) := by
  unfold regionLabel
  split
  · split <;> decide
  all_goals decide

@[simp] theorem oneLine_regionSize {bytesPerUnit : Nat} {unit : String} (whole : OneLine unit)
    (region : MemoryRegion) : OneLine (regionSize bytesPerUnit unit region) := by
  refine oneLine_orElse (by decide) (fun size => ?_) _
  simp +decide [whole]

theorem oneLine_regionLine (region : MemoryRegion) : OneLine (regionLine region) := by
  unfold regionLine
  split <;> simp +decide

@[simp] theorem oneLine_cacheSize (cache : Cache) : OneLine (cacheSize cache) := by
  unfold cacheSize
  split
  · decide
  · refine oneLine_orElse (by decide) (fun size => ?_) _
    simp +decide

theorem oneLine_cacheLine (cache : Cache) : OneLine (cacheLine cache) := by
  unfold cacheLine
  split <;> simp +decide

theorem oneLine_of_mem_kindLines {kind : AgentKind} {line : String} (member : line ∈ kindLines kind) :
    OneLine line := by
  revert line
  cases kind with
  | cpu cores => cases cores <;> simp +decide [kindLines]
  | gpu figures => simp +decide [kindLines]
  | other => simp +decide

theorem oneLine_of_mem_headerLines {facts : SystemFacts} {line : String}
    (member : line ∈ headerLines facts) : OneLine line := by
  simp only [headerLines, platformLine?, List.mem_append, List.mem_cons, List.not_mem_nil, or_false,
    Option.mem_toList, Option.map_eq_some_iff, Option.ite_none_right_eq_some,
    Option.some.injEq] at member
  rcases member with ((((rfl | rfl | rfl | rfl) | ⟨_, _, rfl⟩) | ⟨_, rfl⟩) | ⟨_, _, rfl⟩)
  · decide
  · decide
  · decide
  all_goals simp +decide [InterfaceVersion.text]

end ReportText

end ComputeTopology
