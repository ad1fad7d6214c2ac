import Mathlib.Data.List.Basic
import ComputeTopology.Proofs.Json.Scanning

namespace ComputeTopology.Json

theorem Lexes.fixed {token : Token} {lexeme text : List Char} {tokens : List Token}
    (spelled : token.spelling? = some lexeme) (others : Lexes text tokens) :
    Lexes (lexeme ++ text) (token :: tokens) := by
  refine .token (.fixed spelled) ?_ others
  cases token with
  | number => contradiction
  | _ => trivial

theorem Lexes.char {token : Token} (c : Char) {text : List Char} {tokens : List Token}
    (spelled : token.spelling? = some [c]) (others : Lexes text tokens) :
    Lexes (c :: text) (token :: tokens) :=
  .fixed spelled others

/-- Texts may stand next to each other unless a number could go on across the border. -/
theorem Lexes.append {left right : List Char} {first second : List Token} (leading : Lexes left first)
    (border : ∀ c ∈ right.head?, Token.isNumberChar c = false) (trailing : Lexes right second) :
    Lexes (left ++ right) (first ++ second) := by
  induction leading with
  | nil => exact trailing
  | space blank _ ih => exact .space blank ih
  | @token token lexeme text tokens written ends _ ih =>
      rw [List.append_assoc]
      refine .token written ?_ ih
      cases text with
      | nil =>
          cases token with
          | number =>
              cases right with
              | nil => trivial
              | cons c rest => exact border c rfl
          | _ => trivial
      | cons c rest =>
          cases token with
          | number => exact ends
          | _ => trivial

theorem Lexes.blanks {gap text : List Char} {tokens : List Token}
    (blank : ∀ c ∈ gap, Token.isSpace c = true) (others : Lexes text tokens) :
    Lexes (gap ++ text) tokens := by
  induction gap with
  | nil => exact others
  | cons c rest ih =>
      obtain ⟨blank, blanks⟩ := List.forall_mem_cons.mp blank
      exact .space blank (ih blanks)

theorem isNumberChar_of_isSpace {c : Char} (blank : Token.isSpace c = true) :
    Token.isNumberChar c = false := by
  simp only [Token.isSpace, Bool.or_eq_true, beq_iff_eq] at blank
  obtain ((rfl | rfl) | rfl) | rfl := blank <;> rfl

/-- Blanks between two tokens leave the tokens as they are. -/
theorem Lexes.spread {before gap after : List Char} {first second : List Token}
    (front : Lexes before first) (back : Lexes after second)
    (whole : Lexes (before ++ after) (first ++ second))
    (blank : ∀ c ∈ gap, Token.isSpace c = true) :
    Lexes (before ++ (gap ++ after)) (first ++ second) := by
  cases gap with
  | nil => exact whole
  | cons c rest =>
      refine front.append ?_ (.blanks blank back)
      intro border same
      cases same
      exact isNumberChar_of_isSpace (List.forall_mem_cons.mp blank).1

namespace Scan

/-- What the rest of a text has to be for a scanner in this mode, and the tokens
    that are still to come. -/
inductive Rest : Mode → List Char → List Token → Prop where
  | between {text : List Char} {tokens : List Token} (others : Lexes text tokens) :
      Rest .between text tokens
  | word (letters : List Char) {text : List Char} {token : Token} {tokens : List Token}
      (others : Lexes text tokens) : Rest (.word letters token) (letters ++ text) (token :: tokens)
  | number {reversed more text : List Char} {tokens : List Token}
      (valid : Token.isNumber (reversed.reverse ++ more) = true)
      (ends : (Token.number (reversed.reverse ++ more)).EndsBefore text)
      (others : Lexes text tokens) :
      Rest (.number reversed) (more ++ text) (.number (reversed.reverse ++ more) :: tokens)
  | plain {partialText : PartialText} {pieces : List Piece} {body text : List Char}
      {tokens : List Token} (position : partialText.position = .plain) (spelled : Body pieces body)
      (others : Lexes text tokens) :
      Rest (.text partialText) (body ++ '"' :: text)
        (.text (pieces.foldl PartialText.take partialText).content :: tokens)
  | escape {partialText : PartialText} {piece : Piece} {front : List Char} {pieces : List Piece}
      {body text : List Char} {tokens : List Token} (position : partialText.position = .escape)
      (written : piece.Written ('\\' :: front)) (spelled : Body pieces body)
      (others : Lexes text tokens) :
      Rest (.text partialText) (front ++ (body ++ '"' :: text))
        (.text (pieces.foldl PartialText.take (partialText.take piece)).content :: tokens)
  | digits {partialText : PartialText} {left value total : Nat} {digits : List Char}
      {pieces : List Piece} {body text : List Char} {tokens : List Token}
      (position : partialText.position = .unit left value) (count : digits.length = left - 1 + 1)
      (read : hexFrom value digits = some total) (spelled : Body pieces body)
      (others : Lexes text tokens) :
      Rest (.text partialText) (digits ++ (body ++ '"' :: text))
        (.text (pieces.foldl PartialText.take (partialText.take (.unit total))).content :: tokens)

/-- A step between two tokens either emits a token of one character, or begins a longer one. -/
theorem lexes_of_stepBetween {scan next : Scan} {c : Char} {text : List Char} {later : List Token}
    (stepped : scan.stepBetween c = some next) (rest : Rest next.mode text later) :
    ∃ tokens, next.reversed.reverse ++ later = scan.reversed.reverse ++ tokens ∧
      Lexes (c :: text) tokens := by
  have single {token : Token} (spelled : token.spelling? = some [c]) (same : next = scan.emit token) :
      ∃ tokens, next.reversed.reverse ++ later = scan.reversed.reverse ++ tokens ∧
        Lexes (c :: text) tokens := by
    subst same
    cases rest with
    | between others =>
        refine ⟨token :: later, by simp [emit], ?_⟩
        exact .char c spelled others
  have word {token : Token} {letters : List Char} (spelled : token.spelling? = some (c :: letters))
      (same : next = scan.enter (.word letters token)) :
      ∃ tokens, next.reversed.reverse ++ later = scan.reversed.reverse ++ tokens ∧
        Lexes (c :: text) tokens := by
    subst same
    cases rest with
    | word _ others =>
        refine ⟨_, rfl, ?_⟩
        exact .fixed spelled others
  unfold stepBetween at stepped
  split at stepped
  · rename_i blank
    cases stepped
    cases rest with
    | between others => exact ⟨_, rfl, .space blank others⟩
  · split at stepped
    · cases stepped
      cases rest with
      | number valid ends others => exact ⟨_, rfl, .token (.number valid) ends others⟩
    · split at stepped
      all_goals cases stepped
      · exact single rfl rfl
      · exact single rfl rfl
      · exact single rfl rfl
      · exact single rfl rfl
      · exact single rfl rfl
      · exact single rfl rfl
      · cases rest with
        | plain position spelled others =>
            refine ⟨_, rfl, ?_⟩
            rw [PartialText.content_foldl_take]
            simpa using Lexes.token (.text spelled) trivial others
        | escape position => contradiction
        | digits position => contradiction
      · exact word rfl rfl
      · exact word rfl rfl
      · exact word rfl rfl

section InText

variable {scan next : Scan} {partialText : PartialText} {c : Char} {text : List Char}
  {later : List Token}

theorem rest_of_plain (position : partialText.position = .plain)
    (stepped : scan.stepText partialText c = some next) (rest : Rest next.mode text later) :
    ∃ tokens, next.reversed.reverse ++ later = scan.reversed.reverse ++ tokens ∧
      Rest (.text partialText) (c :: text) tokens := by
  simp only [stepText, position] at stepped
  split at stepped
  · rename_i quote
    cases stepped
    cases eq_of_beq quote
    cases rest with
    | between others =>
        have closed := Rest.plain position .nil others
        exact ⟨.text partialText.content :: later, by simp [emit], closed⟩
  · split at stepped
    · rename_i backslash
      cases stepped
      cases eq_of_beq backslash
      cases rest with
      | plain other => contradiction
      | digits other => contradiction
      | escape _ written spelled others =>
          refine ⟨_, rfl, ?_⟩
          rw [take_at, ← List.foldl_cons, ← List.append_assoc]
          exact .plain position (.cons written spelled) others
    · split at stepped
      · contradiction
      · rename_i notQuote notBackslash visible
        cases stepped
        have written : (Piece.char c).Written [c] :=
          .plain (by simpa using notQuote) (by simpa using notBackslash) (Nat.not_lt.mp visible)
        cases rest with
        | plain _ spelled others =>
            have grown := Rest.plain position (.cons written spelled) others
            exact ⟨_, rfl, grown⟩
        | escape other => contradiction
        | digits other => contradiction

theorem rest_of_escape (position : partialText.position = .escape)
    (stepped : scan.stepText partialText c = some next) (rest : Rest next.mode text later) :
    ∃ tokens, next.reversed.reverse ++ later = scan.reversed.reverse ++ tokens ∧
      Rest (.text partialText) (c :: text) tokens := by
  simp only [stepText, position] at stepped
  split at stepped
  · rename_i announced
    cases stepped
    cases eq_of_beq announced
    cases rest with
    | plain other => contradiction
    | escape other => contradiction
    | @digits _ left value total digits _ _ _ _ other count read spelled others =>
        cases other
        have hexadecimal : Text.Numeral.magnitude? 16 digits = some total := by
          cases digits with
          | nil => contradiction
          | cons d rest => exact read
        refine ⟨_, rfl, ?_⟩
        rw [take_at]
        exact .escape position (.digits count hexadecimal) spelled others
  · obtain ⟨meant, escaped, same⟩ := Option.map_eq_some_iff.mp stepped
    cases same
    cases rest with
    | plain _ spelled others => exact ⟨_, rfl, .escape position (.letter escaped) spelled others⟩
    | escape other => contradiction
    | digits other => contradiction

theorem rest_of_unit {left value : Nat} (position : partialText.position = .unit left value)
    (stepped : scan.stepText partialText c = some next) (rest : Rest next.mode text later) :
    ∃ tokens, next.reversed.reverse ++ later = scan.reversed.reverse ++ tokens ∧
      Rest (.text partialText) (c :: text) tokens := by
  simp only [stepText, position] at stepped
  obtain ⟨digit, digitRead, same⟩ := Option.map_eq_some_iff.mp stepped
  split at same
  · rename_i last
    cases same
    have read : hexFrom value [c] = some (value * 16 + digit) := by
      rw [hexFrom_cons, digitRead]
      rfl
    have plain : (partialText.pushUnit (value * 16 + digit)).position = .plain :=
      position_take partialText (.unit (value * 16 + digit))
    cases rest with
    | plain _ spelled others =>
        have count : [c].length = left - 1 + 1 := by
          rw [List.length_singleton]
          omega
        exact ⟨_, rfl, .digits position count read spelled others⟩
    | escape other =>
        rw [plain] at other
        contradiction
    | digits other =>
        rw [plain] at other
        contradiction
  · rename_i more
    cases same
    cases rest with
    | plain other => contradiction
    | escape other => contradiction
    | @digits _ _ _ total digits _ _ _ _ other count read spelled others =>
        cases other
        have wholeRead : hexFrom value (c :: digits) = some total := by
          rw [hexFrom_cons, digitRead]
          exact read
        have wholeCount : (c :: digits).length = left - 1 + 1 := by
          rw [List.length_cons, count]
          omega
        refine ⟨_, rfl, ?_⟩
        rw [take_at]
        exact .digits position wholeCount wholeRead spelled others

end InText

theorem rest_of_step {scan next : Scan} {c : Char} {text : List Char} {later : List Token}
    (stepped : scan.step c = some next) (rest : Rest next.mode text later) :
    ∃ tokens, next.reversed.reverse ++ later = scan.reversed.reverse ++ tokens ∧
      Rest scan.mode (c :: text) tokens := by
  obtain ⟨found, mode⟩ := scan
  unfold step at stepped
  split at stepped
  · rename_i between
    cases between
    obtain ⟨tokens, same, lexes⟩ := lexes_of_stepBetween stepped rest
    exact ⟨tokens, same, .between lexes⟩
  · contradiction
  · rename_i last token word
    cases word
    split at stepped
    · rename_i letter
      cases stepped
      cases eq_of_beq letter
      cases rest with
      | between others => exact ⟨token :: later, by simp [emit], .word [c] others⟩
    · contradiction
  · rename_i expected letters token _ word
    cases word
    split at stepped
    · rename_i letter
      cases stepped
      cases eq_of_beq letter
      cases rest with
      | word _ others => exact ⟨_, rfl, .word (c :: letters) others⟩
    · contradiction
  · rename_i reversed number
    cases number
    split at stepped
    · cases stepped
      cases rest with
      | @number _ more text tokens valid ends others =>
          have grown : (c :: reversed).reverse ++ more = reversed.reverse ++ c :: more := by simp
          rw [grown] at valid ends ⊢
          exact ⟨_, rfl, .number valid ends others⟩
    · rename_i other
      obtain ⟨ended, endedHere, stepped⟩ := Option.bind_eq_some_iff.mp stepped
      unfold endNumber at endedHere
      split at endedHere
      · rename_i valid
        cases endedHere
        obtain ⟨tokens, same, lexes⟩ := lexes_of_stepBetween stepped rest
        refine ⟨.number reversed.reverse :: tokens, by simp [same, emit], ?_⟩
        have whole : reversed.reverse ++ [] = reversed.reverse := List.append_nil _
        rw [← whole] at valid ⊢
        exact .number valid (eq_false_of_ne_true other) lexes
      · contradiction
  · rename_i partialText inText
    cases inText
    cases position : partialText.position with
    | plain => exact rest_of_plain position stepped rest
    | escape => exact rest_of_escape position stepped rest
    | unit left value => exact rest_of_unit position stepped rest

theorem rest_of_finish {scan : Scan} {tokens : List Token} (finished : scan.finish = some tokens) :
    ∃ later, tokens = scan.reversed.reverse ++ later ∧ Rest scan.mode [] later := by
  obtain ⟨found, mode⟩ := scan
  unfold finish at finished
  split at finished
  · rename_i between
    cases between
    cases finished
    exact ⟨[], (List.append_nil _).symm, .between .nil⟩
  · rename_i reversed number
    cases number
    obtain ⟨ended, endedHere, same⟩ := Option.map_eq_some_iff.mp finished
    unfold endNumber at endedHere
    split at endedHere
    · rename_i valid
      cases endedHere
      refine ⟨[.number reversed.reverse], by simp [← same, emit], ?_⟩
      have whole : reversed.reverse ++ [] = reversed.reverse := List.append_nil _
      rw [← whole] at valid ⊢
      have ends : (Token.number (reversed.reverse ++ [])).EndsBefore [] := trivial
      have ended := Rest.number valid ends .nil
      exact ended
    · contradiction
  · contradiction

theorem rest_of_run {scan : Scan} {text : List Char} {tokens : List Token}
    (ran : scan.run text = some tokens) :
    ∃ later, tokens = scan.reversed.reverse ++ later ∧ Rest scan.mode text later := by
  -- The demand is traced backwards: what is left after a step tells what was left before it.
  induction text generalizing scan with
  | nil => exact rest_of_finish ran
  | cons c text ih =>
      rw [run_cons] at ran
      obtain ⟨next, stepped, ran⟩ := Option.bind_eq_some_iff.mp ran
      obtain ⟨later, rfl, rest⟩ := ih ran
      exact rest_of_step stepped rest

end Scan

/-- Scanning finds tokens exactly in the texts that spell them. -/
theorem tokens?_eq_some_iff {text : List Char} {tokens : List Token} :
    tokens? text = some tokens ↔ Lexes text tokens := by
  constructor
  · intro scanned
    have ran : Scan.start.run text = some tokens := scanned
    obtain ⟨later, rfl, rest⟩ := Scan.rest_of_run ran
    cases rest with
    | between lexes => exact lexes
  · exact Scan.run_of_lexes

end ComputeTopology.Json
