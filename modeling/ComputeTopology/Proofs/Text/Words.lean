import ComputeTopology.Proofs.Text.Pieces

namespace ComputeTopology.Text

/-- A text that is a single word. -/
def IsWord (text : List Char) : Prop :=
  text ≠ [] ∧ ∀ c ∈ text, isBlank c = false

/-- A text that does not go on with a word before it. -/
def Breaks (text : List Char) : Prop :=
  ∀ c ∈ text.head?, isBlank c = true

variable {front word rest text : List Char} {others : List (List Char)}

theorem words_append_cons {c : Char} (blank : isBlank c = true) (front back : List Char) :
    words (front ++ c :: back) = words front ++ words back := by
  rw [words, split_append_cons blank, List.filter_append, words, words]

theorem words_cons_of_blank {c : Char} (blank : isBlank c = true) (text : List Char) :
    words (c :: text) = words text :=
  words_append_cons blank [] text

theorem words_append_of_allBlank (blank : allBlank front = true) (rest : List Char) :
    words (front ++ rest) = words rest := by
  induction front with
  | nil => rfl
  | cons c others ih =>
      simp only [allBlank, List.all_cons, Bool.and_eq_true] at blank
      rw [List.cons_append, words_cons_of_blank blank.1, ih blank.2]

theorem words_of_isWord (isWord : IsWord word) : words word = [word] := by
  rw [words, split_of_unseparated isWord.2]
  simp [isWord.1]

theorem words_append_of_breaks (isWord : IsWord word) (breaks : Breaks rest) :
    words (word ++ rest) = word :: words rest := by
  cases rest with
  | nil => rw [List.append_nil, words_of_isWord isWord]; rfl
  | cons c rest =>
      have blank : isBlank c = true := breaks c rfl
      rw [words_append_cons blank, words_of_isWord isWord, words_cons_of_blank blank]
      rfl

theorem isWord_takeWhile {c : Char} (joins : isBlank c = false) (rest : List Char) :
    IsWord ((c :: rest).takeWhile (!isBlank ·)) := by
  refine ⟨?_, fun d member => by
    simpa using List.all_eq_true.mp List.all_takeWhile d member⟩
  rw [List.takeWhile_cons_of_pos (by simp [joins])]
  exact List.cons_ne_nil _ _

theorem breaks_dropWhile (text : List Char) : Breaks (text.dropWhile (!isBlank ·)) := by
  intro c first
  have stops := List.head?_dropWhile_not (!isBlank ·) text
  rw [Option.mem_def.mp first] at stops
  simpa using stops

theorem words_eq_cons_iff :
    words text = word :: others ↔
      ∃ front rest, text = front ++ word ++ rest ∧ allBlank front = true ∧ IsWord word ∧
        Breaks rest ∧ words rest = others := by
  constructor
  · intro found
    have blank : allBlank (text.takeWhile isBlank) = true := List.all_takeWhile
    have whole : text.takeWhile isBlank ++ text.dropWhile isBlank = text :=
      List.takeWhile_append_dropWhile
    rw [← whole, words_append_of_allBlank blank] at found
    have stops := List.head?_dropWhile_not isBlank text
    cases written : text.dropWhile isBlank with
    | nil =>
        rw [written] at found
        contradiction
    | cons c rest =>
        -- What follows the blanks in front begins with the first word.
        rw [written] at found stops
        have cut : (c :: rest).takeWhile (!isBlank ·) ++ (c :: rest).dropWhile (!isBlank ·) =
            c :: rest := List.takeWhile_append_dropWhile
        have isWord := isWord_takeWhile stops rest
        have breaks := breaks_dropWhile (c :: rest)
        rw [← cut, words_append_of_breaks isWord breaks] at found
        obtain ⟨rfl, rfl⟩ := List.cons.inj found
        exact ⟨_, _, by rw [List.append_assoc, cut, ← written, whole], blank, isWord, breaks, rfl⟩
  · rintro ⟨front, rest, rfl, blank, isWord, breaks, rfl⟩
    rw [List.append_assoc, words_append_of_allBlank blank, words_append_of_breaks isWord breaks]

end ComputeTopology.Text
