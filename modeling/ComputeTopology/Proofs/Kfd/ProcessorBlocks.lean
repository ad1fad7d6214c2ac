import ComputeTopology.Kfd.CpuModels
import ComputeTopology.Proofs.Lookup
import ComputeTopology.Proofs.Text.Numerals
import ComputeTopology.Proofs.Text.Pieces
import ComputeTopology.Proofs.Text.Trim

namespace ComputeTopology.Kfd.CpuModels

open Text (allBlank pieces pieces_append withoutReturn)

def apicKeys : List String := ["apicid", "initial apicid"]

def modelKeys : List String := ["model name"]

/-- A line gives this value to one of the keys. Key and value are on either side of its first
    colon, and blanks around them do not belong to them. -/
def GivesUnder (keys : List String) (line value : List Char) : Prop :=
  ∃ key rest, line = key ++ ':' :: rest ∧ ':' ∉ key ∧ String.ofList (Text.trim key) ∈ keys ∧
    value = Text.trim rest

/-- The lines of a block map an APIC number to a model, the last line for either counting. -/
structure Maps (apicId : UInt32) (block : List (List Char)) (model : String) : Prop where
  apicId : ∃ value, LastGives (GivesUnder apicKeys) block value ∧
    Text.Numeral.Denotes 10 value (Word.toNat apicId)
  model : LastGives (GivesUnder modelKeys) block model.toList

section Fields

/-- The value that a line gives to one of the keys, if it does. -/
def field? (keys : List String) (line : List Char) : Option (List Char) :=
  (Text.cut? ':' line).bind fun (key, value) =>
    if String.ofList (Text.trim key) ∈ keys then some (Text.trim value) else none

variable {keys : List String} {line value : List Char} {apicId : UInt32} {model : String}

theorem field?_eq_some_iff : field? keys line = some value ↔ GivesUnder keys line value := by
  simp only [field?, GivesUnder, Option.bind_eq_some_iff, Prod.exists, Text.cut?_eq_some_iff,
    Option.ite_none_right_eq_some, Option.some.injEq, and_assoc, eq_comm (a := value)]

theorem field?_withoutReturn (keys : List String) (line : List Char) :
    field? keys (withoutReturn line) = field? keys line := by
  rcases Text.withoutReturn_cases line with same | ends
  · rw [same]
  · conv_rhs => rw [ends, field?, Text.cut?_concat (by decide), Option.bind_map]
    simp only [Function.comp_def, Text.trim_concat (c := '\r') (by decide)]
    rfl

theorem take_eq (block : Block) (line : List Char) :
    block.take line = {
      apicId := (field? apicKeys line).elim block.apicId (Text.Numeral.word? 10)
      model := (field? modelKeys line).elim block.model (fun value => some (String.ofList value)) } := by
  unfold Block.take field?
  cases Text.cut? ':' line with
  | none => rfl
  | some cut =>
      obtain ⟨key, value⟩ := cut
      by_cases isApic : String.ofList (Text.trim key) ∈ apicKeys
      · have other : String.ofList (Text.trim key) ∉ modelKeys := by
          rcases List.mem_pair.mp isApic with same | same <;> rw [same] <;> decide
        simp only [Option.bind_some, if_pos isApic, if_neg other]
        simp only [apicKeys, List.mem_cons, List.not_mem_nil, or_false] at isApic
        simp [isApic]
      · simp only [Option.bind_some, if_neg isApic, Option.elim_none]
        simp only [apicKeys, List.mem_cons, List.not_mem_nil, or_false] at isApic
        by_cases isModel : String.ofList (Text.trim key) = "model name" <;>
          simp [isApic, isModel, modelKeys]

/-- What a whole block says. -/
def Block.ofLines (lines : List (List Char)) : Block :=
  lines.foldl Block.take .empty

theorem apicId_ofLines (lines : List (List Char)) :
    (Block.ofLines lines).apicId = some apicId ↔
      ∃ value, LastGives (GivesUnder apicKeys) lines value ∧
        Text.Numeral.word? 10 value = some apicId := by
  induction lines using List.reverseRecOn with
  | nil => simp [Block.ofLines, Block.empty, not_lastGives_nil]
  | append_singleton lines line ih =>
      simp only [lastGives_concat, ← field?_eq_some_iff] at ih ⊢
      rw [Block.ofLines, List.foldl_concat, take_eq, ← Block.ofLines]
      cases field? apicKeys line with
      | none => simpa using ih
      | some value => simp

theorem model_ofLines (lines : List (List Char)) :
    (Block.ofLines lines).model = some model ↔
      LastGives (GivesUnder modelKeys) lines model.toList := by
  induction lines using List.reverseRecOn with
  | nil => simp [Block.ofLines, Block.empty, not_lastGives_nil]
  | append_singleton lines line ih =>
      simp only [lastGives_concat, ← field?_eq_some_iff] at ih ⊢
      rw [Block.ofLines, List.foldl_concat, take_eq, ← Block.ofLines]
      cases field? modelKeys line with
      | none => simpa using ih
      | some value => simp [← String.toList_inj]

theorem entry?_ofLines {block : List (List Char)} :
    Block.entry? (Block.ofLines block) = some (apicId, model) ↔ Maps apicId block model := by
  have both : Block.entry? (Block.ofLines block) = some (apicId, model) ↔
      (Block.ofLines block).apicId = some apicId ∧ (Block.ofLines block).model = some model := by
    unfold Block.entry?
    cases (Block.ofLines block).apicId <;> cases (Block.ofLines block).model <;> simp
  rw [both, apicId_ofLines, model_ofLines]
  simp only [Text.Numeral.word?_eq_some_iff]
  exact ⟨fun ⟨apicId, model⟩ => ⟨apicId, model⟩, fun ⟨apicId, model⟩ => ⟨apicId, model⟩⟩

end Fields

namespace Progress

/-- The block in hand goes on up to the first blank line, and the other blocks stand between
    blank lines. -/
theorem entries_close_foldl {lines : List (List Char)} {first : List (List Char)}
    {others : List (List (List Char))} (split : lines.splitOnP allBlank = first :: others)
    (progress : Progress) :
    (lines.foldl step progress).close.entries =
      ((first.foldl Block.take progress.block :: others.map Block.ofLines).filterMap
        Block.entry?).reverse ++ progress.entries := by
  induction lines generalizing first others progress with
  | nil =>
      cases split
      cases held : progress.block.entry? <;> simp [close, held]
  | cons line rest ih =>
      obtain ⟨next, later, splitRest⟩ := List.exists_cons_of_ne_nil (rest.splitOnP_ne_nil allBlank)
      rw [List.splitOnP_cons_eq_if_modifyHead, splitRest] at split
      rw [List.foldl_cons, step, ih splitRest]
      cases blank : allBlank line with
      | true =>
          rw [blank, if_pos rfl] at split
          cases split
          cases held : progress.block.entry? <;> simp [close, held, Block.ofLines]
      | false =>
          rw [blank, if_neg Bool.false_ne_true, List.modifyHead_cons] at split
          cases split
          rfl

theorem step_withoutReturn (progress : Progress) (line : List Char) :
    progress.step (withoutReturn line) = progress.step line := by
  have blank : allBlank (withoutReturn line) = allBlank line := by
    rcases Text.withoutReturn_cases line with same | ends
    · rw [same]
    · conv_rhs => rw [ends, allBlank, List.all_append, (by decide : ['\r'].all Text.isBlank = true)]
      rw [Bool.and_true, allBlank]
  rw [step, step, blank, take_eq, take_eq, field?_withoutReturn, field?_withoutReturn]

@[simp] theorem close_close (progress : Progress) : progress.close.close = progress.close := rfl

theorem foldl_step_of_blank {lines : List (List Char)} (some_line : lines ≠ [])
    (blank : ∀ line ∈ lines, allBlank line = true) (progress : Progress) :
    lines.foldl step progress = progress.close := by
  induction lines generalizing progress with
  | nil => contradiction
  | cons line rest ih =>
      obtain ⟨first, others⟩ := List.forall_mem_cons.mp blank
      rw [List.foldl_cons, step, if_pos first]
      cases rest with
      | nil => rfl
      | cons next later => rw [ih (List.cons_ne_nil _ _) others, close_close]

theorem foldl_step_closed (lines : List (List Char)) (entries : List (UInt32 × String)) :
    (lines.foldl step ⟨entries, .empty⟩).close.entries =
      (lines.foldl step .start).close.entries ++ entries := by
  obtain ⟨first, others, split⟩ := List.exists_cons_of_ne_nil (lines.splitOnP_ne_nil allBlank)
  rw [entries_close_foldl split, entries_close_foldl split]
  simp [start]

theorem foldl_lines (text : List Char) (progress : Progress) :
    ((Text.lines text).foldl step progress).close =
      ((Text.split (· == '\n') text).foldl step progress).close := by
  obtain ⟨pieces, last, split, lines⟩ := Text.exists_pieces_of_lines text
  rw [split, lines, List.foldl_append, List.foldl_append, List.foldl_map]
  simp only [step_withoutReturn]
  cases last with
  | nil => rfl
  | cons c rest => rfl

end Progress

theorem entries_parse (text : String) :
    (parse text).entries =
      (((Text.lines text.toList).splitOnP allBlank).filterMap
        fun block => Block.entry? (Block.ofLines block)).reverse := by
  obtain ⟨first, others, split⟩ :=
    List.exists_cons_of_ne_nil ((Text.lines text.toList).splitOnP_ne_nil allBlank)
  have opening : first.foldl Block.take Progress.start.block = Block.ofLines first := rfl
  refine (Progress.entries_close_foldl split .start).trans ?_
  rw [split, opening, ← List.map_cons, List.filterMap_map]
  exact List.append_nil _

theorem parse_eq_pieces (text : String) :
    parse text = ⟨((pieces text).foldl Progress.step .start).close.entries⟩ := by
  rw [parse, Progress.foldl_lines, pieces]

theorem foldl_blank_pieces {blank : String} (isBlank : allBlank blank.toList = true)
    (progress : Progress) : (pieces blank).foldl Progress.step progress = progress.close :=
  Progress.foldl_step_of_blank (Text.split_ne_nil _ _) (Text.all_of_mem_split isBlank) progress

theorem entries_append {blank : String} (isBlank : allBlank blank.toList = true)
    (front back : String) :
    (parse (front ++ "\n" ++ blank ++ "\n" ++ back)).entries =
      (parse back).entries ++ (parse front).entries := by
  simp only [parse_eq_pieces, pieces_append, List.foldl_append, foldl_blank_pieces isBlank]
  exact Progress.foldl_step_closed _ _

/-- A text whose last line is complete, if it has any. -/
def EndsLine (text : String) : Prop :=
  text = "" ∨ ∃ front, text = front ++ "\n"

theorem entries_append_of_endsLine {front blank : String} (ended : EndsLine front)
    (isBlank : allBlank blank.toList = true) (back : String) :
    (parse (front ++ blank ++ "\n" ++ back)).entries =
      (parse back).entries ++ (parse front).entries := by
  rcases ended with rfl | ⟨whole, rfl⟩
  · simp only [parse_eq_pieces, String.empty_append, pieces_append, List.foldl_append,
      foldl_blank_pieces isBlank]
    exact (List.append_nil _).symm
  · have complete : parse (whole ++ "\n") = parse whole := by
      rw [← String.append_empty (s := whole ++ "\n"), parse_eq_pieces, pieces_append, parse_eq_pieces,
        List.foldl_append]
      rfl
    rw [entries_append isBlank, complete]

/-- A processor has the model that the last block with both its APIC number and a model tells.
    The blocks are what stands between blank lines. So if one text follows another after a
    blank line, its models go before those of the other, and no block takes anything from a
    block of the other text. -/
theorem last_block_maps (text : String) :
    (∀ apicId model, (parse text).model? apicId = some model ↔
        LastGives (Maps apicId) ((Text.lines text.toList).splitOnP allBlank) model) ∧
      ∀ blank later : String, allBlank blank.toList = true →
        (∀ apicId, (parse (text ++ "\n" ++ blank ++ "\n" ++ later)).model? apicId =
            ((parse later).model? apicId).or ((parse text).model? apicId)) ∧
          (EndsLine text → ∀ apicId, (parse (text ++ blank ++ "\n" ++ later)).model? apicId =
            ((parse later).model? apicId).or ((parse text).model? apicId)) := by
  refine ⟨fun apicId model => ?_, fun blank later isBlank => ⟨fun apicId => ?_, fun ended apicId => ?_⟩⟩
  · rw [model?, entries_parse, lookup_reverse_filterMap_eq_some_iff]
    simp only [entry?_ofLines]
  · rw [model?, entries_append isBlank, List.lookup_append, model?, model?]
  · rw [model?, entries_append_of_endsLine ended isBlank, List.lookup_append, model?, model?]

/-- A second text whose first block has no number takes none from the first text, and one whose
    number is none at the end has none. -/
theorem last_block_of_two_texts :
    let text := "apicid : 7\nmodel name : EPYC\n\napicid : 8\nmodel name : EPYC\r\n"
    let later := "model name : Ryzen\n\n apicid: 8\nmodel name : Xeon : Gold\n \n\napicid : 7\n" ++
      "initial apicid : seven\nmodel name : Arm\n"
    allBlank "\t".toList = true ∧ EndsLine text ∧
      (parse (text ++ "\t" ++ "\n" ++ later)).model? 8 = some "Xeon : Gold" ∧
      (parse (text ++ "\t" ++ "\n" ++ later)).model? 7 = some "EPYC" ∧
      (parse (text ++ "\n" ++ "\t" ++ "\n" ++ later)).model? 7 = some "EPYC" := by
  intro text later
  have blank : allBlank "\t".toList = true := by decide
  have ended : EndsLine text :=
    .inr ⟨"apicid : 7\nmodel name : EPYC\n\napicid : 8\nmodel name : EPYC\r", by decide⟩
  obtain ⟨apart, joined⟩ := (last_block_maps text).2 "\t" later blank
  refine ⟨blank, ended, (joined ended 8).trans ?_, (joined ended 7).trans ?_, (apart 7).trans ?_⟩
  all_goals decide +kernel

end ComputeTopology.Kfd.CpuModels
