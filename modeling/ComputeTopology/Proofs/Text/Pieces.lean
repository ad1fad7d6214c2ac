import Mathlib.Data.List.Infix
import ComputeTopology.Text.Pieces

namespace ComputeTopology

/-- What stands before a separator and what comes after it are known from the whole, if
    the separator does not occur before. -/
theorem append_cons_inj {α : Type} {separator : α} {front back others rest : List α}
    (first : separator ∉ front) (next : separator ∉ others)
    (same : front ++ separator :: back = others ++ separator :: rest) :
    front = others ∧ back = rest := by
  induction front generalizing others with
  | nil =>
      cases others with
      | nil => exact ⟨rfl, (List.cons.inj same).2⟩
      | cons item _ =>
          obtain ⟨rfl, _⟩ := List.cons.inj same
          exact absurd List.mem_cons_self next
  | cons item front ih =>
      cases others with
      | nil =>
          obtain ⟨rfl, _⟩ := List.cons.inj same
          exact absurd List.mem_cons_self first
      | cons other others =>
          obtain ⟨rfl, tails⟩ := List.cons.inj same
          obtain ⟨rfl, backs⟩ := ih (List.not_mem_of_not_mem_cons first)
            (List.not_mem_of_not_mem_cons next) tails
          exact ⟨rfl, backs⟩

/-- What stands before the last separator and what comes after it are known from the whole. -/
theorem append_cons_inj_last {α : Type} {separator : α} {front back others rest : List α}
    (last : separator ∉ back) (lastToo : separator ∉ rest)
    (same : front ++ separator :: back = others ++ separator :: rest) :
    front = others ∧ back = rest := by
  have reversed := congrArg List.reverse same
  simp only [List.reverse_append, List.reverse_cons, List.append_assoc, List.singleton_append]
    at reversed
  obtain ⟨backs, fronts⟩ :=
    append_cons_inj (mt List.mem_reverse.mp last) (mt List.mem_reverse.mp lastToo) reversed
  exact ⟨List.reverse_injective fronts, List.reverse_injective backs⟩

namespace Text

section Split

variable {separates : Char → Bool}

theorem split_cons_of_joins {c : Char} (joins : separates c = false) (text : List Char) :
    split separates (c :: text) = (split separates text).modifyHead (c :: ·) := by
  simp [split, splitFirst, joins]

/-- The pieces are those of the library's splitting. -/
theorem split_eq_splitOnP (separates : Char → Bool) (text : List Char) :
    split separates text = text.splitOnP separates := by
  induction text with
  | nil => rfl
  | cons c rest ih =>
      rw [List.splitOnP_cons_eq_if_modifyHead, ← ih]
      cases found : separates c with
      | true => exact split_cons_of_separates found rest
      | false => exact split_cons_of_joins found rest

theorem split_append_cons {c : Char} (separator : separates c = true) (front back : List Char) :
    split separates (front ++ c :: back) = split separates front ++ split separates back := by
  simp only [split_eq_splitOnP, List.splitOnP_append_cons front back separator]

theorem split_of_unseparated {text : List Char} (whole : ∀ c ∈ text, separates c = false) :
    split separates text = [text] := by
  rw [split_eq_splitOnP, List.splitOnP_eq_singleton whole]

/-- A piece has characters of the text, and none that separates. -/
theorem chars_of_mem_split (text : List Char) :
    ∀ piece ∈ split separates text, ∀ c ∈ piece, c ∈ text ∧ separates c = false := by
  induction text with
  | nil => simp
  | cons c rest ih =>
      have later : ∀ piece ∈ split separates rest, ∀ d ∈ piece, d ∈ c :: rest ∧ separates d = false :=
        fun piece member d inside =>
          ⟨List.mem_cons_of_mem c (ih piece member d inside).1, (ih piece member d inside).2⟩
      cases found : separates c with
      | true =>
          rw [split_cons_of_separates found]
          exact List.forall_mem_cons.mpr ⟨by simp, later⟩
      | false =>
          rw [split_cons_of_joins found]
          obtain ⟨piece, pieces, split⟩ := List.exists_cons_of_ne_nil (split_ne_nil separates rest)
          rw [split] at later ⊢
          obtain ⟨first, others⟩ := List.forall_mem_cons.mp later
          have begun := List.forall_mem_cons.mpr ⟨⟨List.mem_cons_self, found⟩, first⟩
          exact List.forall_mem_cons.mpr ⟨begun, others⟩

/-- A character of the text separates, or it is in a piece. -/
theorem mem_split_of_mem {c : Char} {text : List Char} (member : c ∈ text) :
    separates c = true ∨ ∃ piece ∈ split separates text, c ∈ piece := by
  induction text with
  | nil => contradiction
  | cons d rest ih =>
      cases found : separates d with
      | true =>
          rw [split_cons_of_separates found]
          rcases List.mem_cons.mp member with rfl | later
          · exact .inl found
          · obtain separator | ⟨piece, listed, inside⟩ := ih later
            · exact .inl separator
            · exact .inr ⟨piece, List.mem_cons_of_mem _ listed, inside⟩
      | false =>
          obtain ⟨first, others, split⟩ := List.exists_cons_of_ne_nil (split_ne_nil separates rest)
          rw [split] at ih
          rw [split_cons_of_joins found, split, List.modifyHead_cons]
          rcases List.mem_cons.mp member with rfl | later
          · exact .inr ⟨c :: first, List.mem_cons_self, List.mem_cons_self⟩
          · obtain separator | ⟨piece, listed, inside⟩ := ih later
            · exact .inl separator
            · rcases List.mem_cons.mp listed with rfl | listed
              · exact .inr ⟨d :: piece, List.mem_cons_self, List.mem_cons_of_mem d inside⟩
              · exact .inr ⟨piece, List.mem_cons_of_mem _ listed, inside⟩

theorem not_mem_of_mem_split {separator : Char} {text : List Char} :
    ∀ piece ∈ split (· == separator) text, separator ∉ piece := by
  intro piece member inside
  exact absurd rfl (beq_eq_false_iff_ne.mp (chars_of_mem_split text piece member separator inside).2)

/-- The pieces between the occurrences of a character are those without it that make up the text. -/
theorem split_eq_iff {separator : Char} {text : List Char} {pieces : List (List Char)}
    (nonempty : pieces ≠ []) :
    split (· == separator) text = pieces ↔
      text = [separator].intercalate pieces ∧ ∀ piece ∈ pieces, separator ∉ piece := by
  constructor
  · intro same
    refine ⟨?_, same ▸ not_mem_of_mem_split⟩
    rw [← same, split_eq_splitOnP, ← List.splitOn_eq_splitOnP, List.intercalate_splitOn]
  · intro ⟨whole, absent⟩
    rw [whole, split_eq_splitOnP, ← List.splitOn_eq_splitOnP,
      List.splitOn_intercalate separator absent nonempty]

theorem all_of_mem_split {holds : Char → Bool} {text : List Char} (all : text.all holds = true) :
    ∀ piece ∈ split separates text, piece.all holds = true := by
  intro piece member
  refine List.all_eq_true.mpr fun c inside => ?_
  exact List.all_eq_true.mp all c (chars_of_mem_split text piece member c inside).1

theorem splitFirst_fst (text : List Char) :
    (splitFirst separates text).1 = text.takeWhile (!separates ·) := by
  induction text with
  | nil => rfl
  | cons c rest ih =>
      cases found : separates c <;> simp_all [splitFirst]

end Split

/-- A text is cut where the separator occurs first. -/
theorem cut?_eq_some_iff {separator : Char} {text front back : List Char} :
    cut? separator text = some (front, back) ↔
      text = front ++ separator :: back ∧ separator ∉ front := by
  constructor
  · intro found
    have whole : text.takeWhile (· != separator) ++ text.dropWhile (· != separator) = text :=
      List.takeWhile_append_dropWhile
    have stops := List.head?_dropWhile_not (· != separator) text
    have absent : separator ∉ text.takeWhile (· != separator) := fun member => by
      simpa using List.all_eq_true.mp List.all_takeWhile separator member
    unfold cut? at found
    cases rest : text.dropWhile (· != separator) with
    | nil => simp [rest] at found
    | cons c after =>
        rw [rest] at found whole stops
        cases found
        obtain rfl : c = separator := by simpa using stops
        exact ⟨whole.symm, absent⟩
  · rintro ⟨rfl, absent⟩
    have other : ∀ c ∈ front, (c != separator) = true := fun c member =>
      bne_iff_ne.mpr fun same => absent (same ▸ member)
    simp [cut?, List.dropWhile_append_of_pos other, List.takeWhile_append_of_pos other]

theorem cut?_eq_none_iff {separator : Char} {text : List Char} :
    cut? separator text = none ↔ separator ∉ text := by
  constructor
  · intro uncut member
    obtain ⟨front, back, split, absent⟩ := List.eq_append_cons_of_mem member
    rw [cut?_eq_some_iff.mpr ⟨split, absent⟩] at uncut
    contradiction
  · intro absent
    cases found : cut? separator text with
    | none => rfl
    | some cut =>
        rw [(cut?_eq_some_iff.mp found).1] at absent
        simp at absent

theorem cut?_concat {separator c : Char} (other : c ≠ separator) (text : List Char) :
    cut? separator (text ++ [c]) = (cut? separator text).map fun cut => (cut.1, cut.2 ++ [c]) := by
  cases found : cut? separator text with
  | none =>
      rw [Option.map_none, cut?_eq_none_iff]
      simpa [Ne.symm other] using cut?_eq_none_iff.mp found
  | some cut =>
      obtain ⟨rfl, absent⟩ := cut?_eq_some_iff.mp found
      exact cut?_eq_some_iff.mpr ⟨by simp, absent⟩

theorem isPrefixOf_takeWhile {word : List Char} {keeps : Char → Bool}
    (kept : ∀ c ∈ word, keeps c = true) (text : List Char) :
    word.isPrefixOf (text.takeWhile keeps) = word.isPrefixOf text := by
  induction word generalizing text with
  | nil => rfl
  | cons c word ih =>
      obtain ⟨first, others⟩ := List.forall_mem_cons.mp kept
      cases text with
      | nil => rfl
      | cons d rest =>
          cases found : keeps d with
          | true =>
              rw [List.takeWhile_cons_of_pos found, List.isPrefixOf_cons_cons, List.isPrefixOf_cons_cons,
                ih others]
          | false =>
              have other : (c == d) = false := beq_false_of_ne fun same => by
                rw [same, found] at first
                contradiction
              rw [List.takeWhile_cons_of_neg (by simp [found]), List.isPrefixOf_cons_cons, other]
              rfl

/-- How often a pattern begins in a text. -/
def occurrences (pattern text : List Char) : Nat :=
  text.tails.countP pattern.isPrefixOf

section Occurrences

variable {pattern : List Char} {first : Char}

theorem occurrences_cons (c : Char) (rest : List Char) :
    occurrences pattern (c :: rest) =
      occurrences pattern rest + if pattern.isPrefixOf (c :: rest) then 1 else 0 := by
  simp only [occurrences, List.tails_cons, List.countP_cons]

theorem occurrences_eq_zero_iff (pattern text : List Char) :
    occurrences pattern text = 0 ↔ ¬ pattern <:+: text := by
  simp only [occurrences, List.countP_eq_zero, List.mem_tails, List.isPrefixOf_iff_prefix,
    List.infix_iff_prefix_suffix, not_exists, not_and]
  exact forall_congr' fun _ => ⟨fun absent begins ends => absent ends begins,
    fun absent ends begins => absent begins ends⟩

theorem occurrences_append_of_not_mem {front : List Char} (absent : first ∉ front)
    (back : List Char) :
    occurrences (first :: pattern) (front ++ back) = occurrences (first :: pattern) back := by
  induction front with
  | nil => rfl
  | cons c rest ih =>
      have other : (first == c) = false := beq_false_of_ne (List.ne_of_not_mem_cons absent)
      rw [List.cons_append, occurrences_cons, ih (List.not_mem_of_not_mem_cons absent),
        List.isPrefixOf_cons_cons, other]
      rfl

theorem isPrefixOf_concat {c : Char} (absent : c ∉ pattern) (text : List Char) :
    pattern.isPrefixOf (text ++ [c]) = pattern.isPrefixOf text := by
  rw [Bool.eq_iff_iff, List.isPrefixOf_iff_prefix, List.isPrefixOf_iff_prefix,
    List.prefix_concat_iff]
  refine or_iff_right fun same => absent ?_
  rw [same]
  exact List.mem_append_right _ (List.mem_singleton_self c)

theorem occurrences_concat {c : Char} (nonempty : pattern ≠ []) (absent : c ∉ pattern)
    (text : List Char) : occurrences pattern (text ++ [c]) = occurrences pattern text := by
  induction text with
  | nil =>
      have none : pattern.isPrefixOf [] = false := by
        cases pattern with
        | nil => contradiction
        | cons => rfl
      rw [List.nil_append, occurrences_cons, ← List.nil_append [c], isPrefixOf_concat absent, none]
      rfl
  | cons d rest ih =>
      rw [List.cons_append, occurrences_cons, ih, ← List.cons_append, isPrefixOf_concat absent,
        occurrences_cons]

end Occurrences

section Lines

variable {word : List Char}

/-- The pieces after the first one begin where a separator ends. -/
theorem countP_splitFirst_snd (whole : '\n' ∉ word) (text : List Char) :
    (splitFirst (· == '\n') text).2.countP word.isPrefixOf = occurrences ('\n' :: word) text := by
  have kept : ∀ c ∈ word, (!(c == '\n')) = true := by
    intro c member
    simpa using fun same : c = '\n' => whole (same ▸ member)
  induction text with
  | nil => rfl
  | cons c rest ih =>
      rw [occurrences_cons, ← ih, List.isPrefixOf_cons_cons]
      by_cases separator : c = '\n'
      · have cut : (splitFirst (· == '\n') (c :: rest)).2 =
            (splitFirst (· == '\n') rest).1 :: (splitFirst (· == '\n') rest).2 := by
          simp [splitFirst, separator]
        rw [cut, List.countP_cons, splitFirst_fst, isPrefixOf_takeWhile kept, separator]
        rfl
      · have same : (splitFirst (· == '\n') (c :: rest)).2 = (splitFirst (· == '\n') rest).2 := by
          simp [splitFirst, separator]
        have other : ('\n' == c) = false := beq_false_of_ne (Ne.symm separator)
        rw [same, other]
        rfl

theorem countP_split (whole : '\n' ∉ word) (text : List Char) :
    (split (· == '\n') text).countP word.isPrefixOf =
      (if word.isPrefixOf text then 1 else 0) + occurrences ('\n' :: word) text := by
  have kept : ∀ c ∈ word, (!(c == '\n')) = true := by
    intro c member
    simpa using fun same : c = '\n' => whole (same ▸ member)
  simp only [split, List.countP_cons, countP_splitFirst_snd whole, splitFirst_fst,
    isPrefixOf_takeWhile kept]
  omega

theorem lines_append_cons (front back : List Char) :
    lines (front ++ '\n' :: back) =
      (split (· == '\n') front).map withoutReturn ++ lines back := by
  have nonempty := split_ne_nil (· == '\n') back
  have cut := @split_append_cons (· == '\n') '\n' rfl front back
  simp only [lines, cut, List.dropLast_append_of_ne_nil nonempty,
    List.getLast?_append_of_ne_nil _ nonempty, List.map_append, List.append_assoc]

/-- Without the returns, the lines are the pieces between line feeds, except for a last one
    that is empty. -/
theorem exists_pieces_of_lines (text : List Char) :
    ∃ pieces last, split (· == '\n') text = pieces ++ [last] ∧
      lines text = pieces.map withoutReturn ++ if last.isEmpty then [] else [last] := by
  have nonempty := split_ne_nil (· == '\n') text
  refine ⟨_, _, (List.dropLast_append_getLast nonempty).symm, ?_⟩
  simp only [lines, List.getLast?_eq_some_getLast nonempty, Option.toList_some]
  cases ends : ((split (· == '\n') text).getLast nonempty).isEmpty <;> simp [ends]

/-- The pieces of a text between its line feeds. -/
def pieces (text : String) : List (List Char) :=
  split (· == '\n') text.toList

theorem pieces_append (front back : String) :
    pieces (front ++ "\n" ++ back) = pieces front ++ pieces back := by
  simpa [pieces] using @split_append_cons (· == '\n') '\n' rfl front.toList back.toList

theorem withoutReturn_cases (line : List Char) :
    withoutReturn line = line ∨ line = withoutReturn line ++ ['\r'] := by
  unfold withoutReturn
  split
  · rename_i rest ends
    right
    rw [← List.reverse_cons, ← ends, List.reverse_reverse]
  · exact .inl rfl

theorem isPrefixOf_withoutReturn (plain : '\r' ∉ word) (line : List Char) :
    word.isPrefixOf (withoutReturn line) = word.isPrefixOf line := by
  unfold withoutReturn
  split
  · rename_i rest ends
    have whole : line = rest.reverse ++ ['\r'] := by
      rw [← List.reverse_cons, ← ends, List.reverse_reverse]
    rw [whole, isPrefixOf_concat plain]
  · rfl

end Lines

end Text

end ComputeTopology
