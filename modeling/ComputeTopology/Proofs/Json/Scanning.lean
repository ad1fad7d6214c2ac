import Mathlib.Data.List.Basic
import ComputeTopology.Proofs.Json.Content

namespace ComputeTopology.Json

namespace Token

theorem isNumberChar_of_isDigit {c : Char} (digit : isDigit c = true) : isNumberChar c = true := by
  simp only [isNumberChar, digit, Bool.true_or]

theorem isNumberChar_of_isDigits {text : List Char} (digits : isDigits text = true) :
    ∀ c ∈ text, isNumberChar c = true := by
  intro c member
  simp only [isDigits, Bool.and_eq_true, List.all_eq_true] at digits
  exact isNumberChar_of_isDigit (digits.2 c member)

theorem isNumberChar_of_isExponent {text : List Char} (exponent : isExponent text = true) :
    ∀ c ∈ text, isNumberChar c = true := by
  cases text with
  | nil => exact List.forall_mem_nil _
  | cons e rest =>
      simp only [isExponent, Bool.and_eq_true, Bool.or_eq_true, beq_iff_eq] at exponent
      obtain ⟨letter, signed⟩ := exponent
      refine List.forall_mem_cons.mpr ⟨by rcases letter with rfl | rfl <;> rfl, ?_⟩
      split at signed
      · exact List.forall_mem_cons.mpr ⟨rfl, isNumberChar_of_isDigits signed⟩
      · exact List.forall_mem_cons.mpr ⟨rfl, isNumberChar_of_isDigits signed⟩
      · exact isNumberChar_of_isDigits signed

theorem isNumberChar_of_takeWhile (text : List Char) :
    ∀ c ∈ text.takeWhile isDigit, isNumberChar c = true :=
  fun c member => isNumberChar_of_isDigit (List.all_eq_true.mp List.all_takeWhile c member)

theorem isNumberChar_of_isFraction {text : List Char} (fraction : isFraction text = true) :
    ∀ c ∈ text, isNumberChar c = true := by
  unfold isFraction at fraction
  split at fraction
  · rename_i rest
    simp only [Bool.and_eq_true] at fraction
    refine List.forall_mem_cons.mpr ⟨rfl, ?_⟩
    rw [← List.takeWhile_append_dropWhile (p := isDigit) (l := rest)]
    exact List.forall_mem_append.mpr
      ⟨isNumberChar_of_takeWhile rest, isNumberChar_of_isExponent fraction.2⟩
  · exact isNumberChar_of_isExponent fraction

theorem isNumberChar_of_isNumber {lexeme : List Char} (valid : isNumber lexeme = true) :
    ∀ c ∈ lexeme, isNumberChar c = true := by
  have magnitude {text : List Char} (split : (isWhole (text.takeWhile isDigit) &&
      isFraction (text.dropWhile isDigit)) = true) : ∀ c ∈ text, isNumberChar c = true := by
    rw [← List.takeWhile_append_dropWhile (p := isDigit) (l := text)]
    exact List.forall_mem_append.mpr ⟨isNumberChar_of_takeWhile text,
      isNumberChar_of_isFraction (Bool.and_eq_true_iff.mp split).2⟩
  unfold isNumber at valid
  split at valid
  · exact List.forall_mem_cons.mpr ⟨rfl, magnitude valid⟩
  · exact magnitude valid

/-- Characters with which a number begins. -/
def startsNumber (c : Char) : Bool :=
  c == '-' || isDigit c

theorem exists_startsNumber {lexeme : List Char} (valid : isNumber lexeme = true) :
    ∃ c rest, lexeme = c :: rest ∧ startsNumber c = true := by
  cases lexeme with
  | nil => contradiction
  | cons c rest =>
      refine ⟨c, rest, rfl, ?_⟩
      by_cases minus : c = '-'
      · simp only [startsNumber, minus, beq_self_eq_true, Bool.true_or]
      · by_contra other
        have notDigit : isDigit c = false := by
          simpa [startsNumber, minus] using other
        simp [isNumber, minus, notDigit, isWhole, isDigits] at valid

theorem isSpace_of_startsNumber {c : Char} (starts : startsNumber c = true) :
    isSpace c = false := by
  by_contra blank
  simp only [isSpace, Bool.not_eq_false, Bool.or_eq_true, beq_iff_eq] at blank
  rcases blank with ((rfl | rfl) | rfl) | rfl <;> contradiction

end Token

namespace Scan

/-- What a scanner makes of the rest of a text. -/
def run (scan : Scan) (text : List Char) : Option (List Token) :=
  (text.foldlM step scan).bind finish

theorem run_cons (scan : Scan) (c : Char) (text : List Char) :
    scan.run (c :: text) = (scan.step c).bind (·.run text) := by
  unfold run
  rw [List.foldlM_cons]
  exact Option.bind_assoc _ _ _

theorem run_of_step {scan next : Scan} {c : Char} (stepped : scan.step c = some next)
    (text : List Char) : scan.run (c :: text) = next.run text := by
  rw [run_cons, stepped, Option.bind_some]

section Complete

variable {found : List Token} {text : List Char}

theorem run_fixed {token : Token} {lexeme : List Char} (spelled : token.spelling? = some lexeme) :
    run ⟨found, .between⟩ (lexeme ++ text) = run ⟨token :: found, .between⟩ text := by
  cases token with
  | bool value => cases value <;> cases spelled <;> rfl
  | number => contradiction
  | text => contradiction
  | _ => cases spelled; rfl

theorem step_startsNumber {c : Char} (starts : Token.startsNumber c = true) :
    step ⟨found, .between⟩ c = some ⟨found, .number [c]⟩ := by
  have notBlank := Token.isSpace_of_startsNumber starts
  unfold Token.startsNumber at starts
  simp only [step, stepBetween, notBlank, starts, if_true, Bool.false_eq_true, if_false, enter]

theorem run_number_chars {more : List Char} (chars : ∀ c ∈ more, Token.isNumberChar c = true)
    (reversed : List Char) :
    run ⟨found, .number reversed⟩ (more ++ text) =
      run ⟨found, .number (more.reverse ++ reversed)⟩ text := by
  induction more generalizing reversed with
  | nil => rfl
  | cons c rest ih =>
      obtain ⟨first, others⟩ := List.forall_mem_cons.mp chars
      have stepped : step ⟨found, .number reversed⟩ c = some ⟨found, .number (c :: reversed)⟩ := by
        simp only [step, first, if_true, enter]
      rw [List.cons_append, run_of_step stepped, ih others, List.reverse_cons, List.append_assoc,
        List.singleton_append]

theorem run_number_end {reversed : List Char} (valid : Token.isNumber reversed.reverse = true)
    (ends : (Token.number reversed.reverse).EndsBefore text) :
    run ⟨found, .number reversed⟩ text =
      run ⟨.number reversed.reverse :: found, .between⟩ text := by
  have ended : endNumber ⟨found, .number reversed⟩ reversed =
      some ⟨.number reversed.reverse :: found, .between⟩ := by
    simp only [endNumber, valid, if_true, emit]
  cases text with
  | nil => simp only [run, List.foldlM_nil, pure, Option.bind_some, finish, ended, Option.map_some]
  | cons c rest =>
      have other : Token.isNumberChar c = false := ends
      rw [run_cons, run_cons]
      simp only [step, other, Bool.false_eq_true, if_false, ended, Option.bind_some]

theorem run_number {lexeme : List Char} (valid : Token.isNumber lexeme = true)
    (ends : (Token.number lexeme).EndsBefore text) :
    run ⟨found, .between⟩ (lexeme ++ text) = run ⟨.number lexeme :: found, .between⟩ text := by
  have chars := Token.isNumberChar_of_isNumber valid
  obtain ⟨c, rest, rfl, starts⟩ := Token.exists_startsNumber valid
  have reversed : (rest.reverse ++ [c]).reverse = c :: rest := by simp
  rw [List.cons_append, run_of_step (step_startsNumber starts),
    run_number_chars (List.forall_mem_cons.mp chars).2,
    run_number_end (by rwa [reversed]) (by rwa [reversed]), reversed]

theorem take_at (partialText : PartialText) (position : Position) (piece : Piece) :
    ({ partialText with position } : PartialText).take piece = partialText.take piece := by
  cases piece with
  | char c => rfl
  | unit value =>
      simp only [PartialText.take, PartialText.pushUnit]
      repeat' split
      all_goals rfl

theorem position_take (partialText : PartialText) (piece : Piece) :
    (partialText.take piece).position = .plain := by
  cases piece with
  | char c => rfl
  | unit value =>
      simp only [PartialText.take, PartialText.pushUnit]
      repeat' split
      all_goals rfl

/-- The value of hexadecimal digits that follow digits of this value. -/
def hexFrom (value : Nat) (digits : List Char) : Option Nat :=
  digits.foldlM (fun value c => (Text.Numeral.digitValue? 16 c).map (value * 16 + ·)) value

theorem hexFrom_cons (value : Nat) (c : Char) (digits : List Char) :
    hexFrom value (c :: digits) =
      (Text.Numeral.digitValue? 16 c).bind (fun digit => hexFrom (value * 16 + digit) digits) := by
  unfold hexFrom
  rw [List.foldlM_cons]
  cases Text.Numeral.digitValue? 16 c <;> rfl

theorem run_digits {partialText : PartialText} {digits : List Char} {left value total : Nat}
    (count : digits.length = left + 1) (read : hexFrom value digits = some total) :
    run ⟨found, .text { partialText with position := .unit (left + 1) value }⟩ (digits ++ text) =
      run ⟨found, .text (partialText.take (.unit total))⟩ text := by
  induction left generalizing digits value with
  | zero =>
      obtain ⟨c, rfl⟩ := List.length_eq_one_iff.mp count
      rw [hexFrom_cons] at read
      obtain ⟨digit, digitRead, totalRead⟩ := Option.bind_eq_some_iff.mp read
      cases totalRead
      have stepped : step ⟨found, .text { partialText with position := .unit 1 value }⟩ c =
          some ⟨found, .text (partialText.take (.unit (value * 16 + digit)))⟩ := by
        simp only [step, stepText, digitRead, Option.map_some, Nat.le_refl, if_true, enter]
        rw [← take_at partialText (.unit 1 value)]
        rfl
      exact run_of_step stepped text
  | succ left ih =>
      cases digits with
      | nil => contradiction
      | cons c rest =>
          rw [hexFrom_cons] at read
          obtain ⟨digit, digitRead, restRead⟩ := Option.bind_eq_some_iff.mp read
          have more : ¬ left + 1 + 1 ≤ 1 := by omega
          have stepped :
              step ⟨found, .text { partialText with position := .unit (left + 1 + 1) value }⟩ c =
                some ⟨found,
                  .text { partialText with position := .unit (left + 1) (value * 16 + digit) }⟩ := by
            simp only [step, stepText, digitRead, Option.map_some, more, if_false, enter]
            rfl
          rw [List.cons_append, run_of_step stepped, ih (Nat.succ.inj count) restRead]

theorem run_piece {partialText : PartialText} {piece : Piece} {front : List Char}
    (plain : partialText.position = .plain) (written : piece.Written front) :
    run ⟨found, .text partialText⟩ (front ++ text) =
      run ⟨found, .text (partialText.take piece)⟩ text := by
  cases written with
  | @plain c notQuote notBackslash printable =>
      have visible : ¬ c.toNat < 0x20 := Nat.not_lt.mpr printable
      have stepped : step ⟨found, .text partialText⟩ c =
          some ⟨found, .text (partialText.take (.char c))⟩ := by
        simp only [step, stepText, plain, beq_iff_eq, notQuote, notBackslash, visible, if_false,
          enter, PartialText.take]
      exact run_of_step stepped text
  | @letter c meant escaped =>
      have notUnit : c ≠ 'u' := by
        rintro rfl
        contradiction
      have opened : step ⟨found, .text partialText⟩ '\\' =
          some ⟨found, .text { partialText with position := .escape }⟩ := by
        simp only [step, stepText, plain]
        rfl
      have stepped : step ⟨found, .text { partialText with position := .escape }⟩ c =
          some ⟨found, .text (partialText.take (.char meant))⟩ := by
        simp only [step, stepText, beq_iff_eq, notUnit, if_false, escaped, Option.map_some]
        rfl
      rw [List.cons_append, run_of_step opened]
      exact run_of_step stepped text
  | @digits digits value four hexadecimal =>
      have opened : step ⟨found, .text partialText⟩ '\\' =
          some ⟨found, .text { partialText with position := .escape }⟩ := by
        simp only [step, stepText, plain]
        rfl
      have announced : step ⟨found, .text { partialText with position := .escape }⟩ 'u' =
          some ⟨found, .text { partialText with position := .unit 4 0 }⟩ := rfl
      have read : hexFrom 0 digits = some value := by
        unfold Text.Numeral.magnitude? at hexadecimal
        split at hexadecimal
        · contradiction
        · exact hexadecimal
      rw [List.cons_append, List.cons_append, run_of_step opened, run_of_step announced]
      exact run_digits four read

theorem run_body {partialText : PartialText} {pieces : List Piece} {body : List Char}
    (plain : partialText.position = .plain) (spelled : Body pieces body) :
    run ⟨found, .text partialText⟩ (body ++ text) =
      run ⟨found, .text (pieces.foldl PartialText.take partialText)⟩ text := by
  induction spelled generalizing partialText with
  | nil => rfl
  | cons first others ih =>
      rw [List.append_assoc, run_piece plain first, ih (position_take _ _), List.foldl_cons]

theorem position_foldl_take {partialText : PartialText} (plain : partialText.position = .plain)
    (pieces : List Piece) : (pieces.foldl PartialText.take partialText).position = .plain := by
  induction pieces generalizing partialText with
  | nil => exact plain
  | cons piece rest ih => exact ih (position_take _ _)

theorem run_text {pieces : List Piece} {body : List Char} (spelled : Body pieces body) :
    run ⟨found, .between⟩ ('"' :: (body ++ ['"']) ++ text) =
      run ⟨.text ((Piece.characters? pieces).map String.ofList) :: found, .between⟩ text := by
  have opened : step ⟨found, .between⟩ '"' = some ⟨found, .text .start⟩ := rfl
  have closed : step ⟨found, .text (pieces.foldl PartialText.take .start)⟩ '"' =
      some ⟨.text ((Piece.characters? pieces).map String.ofList) :: found, .between⟩ := by
    have plain : (pieces.foldl PartialText.take .start).position = .plain :=
      position_foldl_take rfl pieces
    simp only [step, stepText, plain, PartialText.content_foldl_take]
    rfl
  rw [List.cons_append, run_of_step opened, List.append_assoc, run_body rfl spelled]
  exact run_of_step closed text

theorem run_of_lexes {tokens : List Token} (lexes : Lexes text tokens) :
    run ⟨found, .between⟩ text = some (found.reverse ++ tokens) := by
  induction lexes generalizing found with
  | nil => simp only [run, List.foldlM_nil, pure, Option.bind_some, finish, List.append_nil]
  | @space c text tokens blank _ ih =>
      have stepped : step ⟨found, .between⟩ c = some ⟨found, .between⟩ := by
        simp only [step, stepBetween, blank, if_true, enter]
      rw [run_of_step stepped, ih]
  | @token token lexeme text tokens first ends _ ih =>
      have emitted : run ⟨found, .between⟩ (lexeme ++ text) = run ⟨token :: found, .between⟩ text := by
        cases first with
        | fixed spelled => exact run_fixed spelled
        | number valid => exact run_number valid ends
        | text spelled => exact run_text spelled
      rw [emitted, ih, List.reverse_cons, List.append_assoc, List.singleton_append]

end Complete

end Scan

end ComputeTopology.Json
