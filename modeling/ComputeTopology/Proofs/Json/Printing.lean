import Mathlib.Data.List.TakeWhile
import ComputeTopology.Json.Text
import ComputeTopology.Proofs.Json.Trees
import ComputeTopology.Proofs.Text.Hexadecimal

namespace ComputeTopology.Json

theorem spells_fixed (token : Token) {lexeme : List Char} {tree : Tree}
    (spelled : token.spelling? = some lexeme) (single : tree.tokens = [token]) :
    Spells lexeme tree := by
  have lexes := Lexes.fixed spelled .nil
  rw [List.append_nil] at lexes
  rwa [Spells, single]

theorem spells_ofBool (value : Bool) : Spells (ofBool value) (.bool value) := by
  cases value with
  | true => exact spells_fixed (.bool true) rfl (by rw [Tree.tokens])
  | false => exact spells_fixed (.bool false) rfl (by rw [Tree.tokens])

theorem spells_ofOption {α : Type} {write : α → List Char} {tree : α → Tree}
    (spelled : ∀ value, Spells (write value) (tree value)) (value? : Option α) :
    Spells (ofOption write value?) (value?.elim .null tree) := by
  cases value? with
  | none => exact spells_fixed .null rfl (by rw [Option.elim_none, Tree.tokens])
  | some value => exact spelled value

theorem isDigit_of_mem_decimal {value : Nat} {c : Char} (member : c ∈ Nat.toDigits 10 value) :
    Token.isDigit c = true := by
  have digit := Text.Numeral.isDigit_of_mem_decimal member
  simpa only [Token.isDigit, Bool.and_eq_true, decide_eq_true_eq] using digit

theorem isDigits_decimal (value : Nat) : Token.isDigits (Nat.toDigits 10 value) = true := by
  simp only [Token.isDigits, Bool.and_eq_true, Bool.not_eq_true', List.isEmpty_eq_false_iff,
    List.all_eq_true]
  exact ⟨Nat.toDigits_ne_nil, fun _ => isDigit_of_mem_decimal⟩

theorem isWhole_decimal (value : Nat) : Token.isWhole (Nat.toDigits 10 value) = true := by
  unfold Token.isWhole
  by_cases zero : value = 0
  · rw [zero, Nat.toDigits_zero]
    rfl
  · have leading := Text.Numeral.head?_decimal value zero
    simp only [isDigits_decimal, bne_iff_ne.mpr leading, Bool.and_self, Bool.or_true]

theorem isNumber_decimal (value : Nat) : Token.isNumber (Nat.toDigits 10 value) = true := by
  have digits : ∀ c ∈ Nat.toDigits 10 value, Token.isDigit c = true :=
    fun _ => isDigit_of_mem_decimal
  unfold Token.isNumber
  split
  · rename_i rest same
    have digit := digits '-' (by simp [same])
    contradiction
  · simp only [List.takeWhile_eq_self_iff.mpr digits, List.dropWhile_eq_nil_iff.mpr digits,
      isWhole_decimal, Bool.true_and]
    rfl

theorem spells_ofNat (value : Nat) : Spells (ofNat value) (.number (ofNat value)) := by
  have digits : ofNat value = Nat.toDigits 10 value := String.toList_ofList
  have valid := isNumber_decimal value
  rw [← digits] at valid
  have lexes : Lexes (ofNat value ++ []) [.number (ofNat value)] := .token (.number valid) trivial .nil
  rw [List.append_nil] at lexes
  rwa [Spells, Tree.tokens]

/-- The code of a control character has four digits. -/
theorem length_paddedHex : ∀ code < 0x20, (Text.Numeral.paddedHex 4 code).toList.length = 4 := by
  simp only [Text.Numeral.paddedHex, String.toList_ofList]
  decide

theorem written_escape (c : Char) :
    ∃ piece : Piece, piece.Written (escape c) ∧
      ∀ rest, Piece.characters? (piece :: rest) = (Piece.characters? rest).map (c :: ·) := by
  have named (letter : Char) {meant : Char} (escaped : PartialText.escaped? letter = some meant)
      (form : escape meant = ['\\', letter]) :
      ∃ piece : Piece, piece.Written (escape meant) ∧
        ∀ rest, Piece.characters? (piece :: rest) = (Piece.characters? rest).map (meant :: ·) :=
    ⟨.char meant, form ▸ .letter escaped, fun _ => by rw [Piece.characters?]⟩
  unfold escape
  split
  · exact named '"' rfl rfl
  · exact named '\\' rfl rfl
  · exact named 'b' rfl rfl
  · exact named 'f' rfl rfl
  · exact named 'n' rfl rfl
  · exact named 'r' rfl rfl
  · exact named 't' rfl rfl
  · rename_i notQuote notBackslash _ _ _ _ _
    split
    · rename_i control
      have read := Text.Numeral.magnitude?_paddedHex 4 c.toNat
      refine ⟨.unit c.toNat, .digits (length_paddedHex c.toNat control) read, fun rest => ?_⟩
      have notHigh : Piece.isHigh c.toNat = false := by
        simp only [Piece.isHigh, Bool.and_eq_false_iff, decide_eq_false_iff_not]
        omega
      have notLow : Piece.isLow c.toNat = false := by
        simp only [Piece.isLow, Bool.and_eq_false_iff, decide_eq_false_iff_not]
        omega
      rw [Piece.characters?.eq_def]
      simp only [notHigh, notLow, Bool.false_eq_true, if_false, Char.ofNat_toNat]
    · rename_i printable
      exact ⟨.char c, .plain notQuote notBackslash (Nat.not_lt.mp printable),
        fun _ => by rw [Piece.characters?]⟩

theorem body_escape (content : List Char) :
    ∃ pieces, Body pieces (content.flatMap escape) ∧ Piece.characters? pieces = some content := by
  induction content with
  | nil => exact ⟨[], .nil, by rw [Piece.characters?]⟩
  | cons c rest ih =>
      obtain ⟨pieces, spelled, read⟩ := ih
      obtain ⟨piece, written, readFirst⟩ := written_escape c
      refine ⟨piece :: pieces, .cons written spelled, ?_⟩
      rw [readFirst, read, Option.map_some]

theorem lexes_ofString (content : String) {text : List Char} {tokens : List Token}
    (others : Lexes text tokens) :
    Lexes (ofString content ++ text) (.text (some content) :: tokens) := by
  obtain ⟨pieces, spelled, read⟩ := body_escape content.toList
  have whole : (Piece.characters? pieces).map String.ofList = some content := by
    rw [read, Option.map_some, String.ofList_toList]
  have lexes := Lexes.token (.text spelled) trivial others
  rwa [whole] at lexes

theorem spells_ofString (content : String) : Spells (ofString content) (.text (some content)) := by
  have lexes := lexes_ofString content .nil
  rw [List.append_nil] at lexes
  rwa [Spells, Tree.tokens]

theorem lexes_separate {texts : List (List Char)} {trees : List Tree}
    (spelled : List.Forall₂ Spells texts trees) : Lexes (separate texts) (itemTokens trees) := by
  induction spelled with
  | nil =>
      rw [separate, itemTokens]
      exact .nil
  | @cons text tree texts trees first others ih =>
      cases others with
      | nil =>
          rw [separate, itemTokens]
          exact first
      | cons second others =>
          rw [separate, itemTokens]
          · exact first.append (by rintro _ ⟨⟩; rfl) (.char ',' rfl ih)
          · nofun

theorem spells_ofItems {texts : List (List Char)} {trees : List Tree}
    (spelled : List.Forall₂ Spells texts trees) : Spells (ofItems texts) (.array trees) := by
  have closing : Lexes [']'] [.closeArray] := .char ']' rfl .nil
  rw [Spells, Tree.tokens, ofItems]
  exact .char '[' rfl
    ((lexes_separate spelled).append (by rintro _ ⟨⟩; rfl) closing)

/-- A key with the text of a value, and with the value. -/
def SpellsMember (written : String × List Char) (member : Member) : Prop :=
  member.1 = some written.1 ∧ Spells written.2 member.2

theorem lexes_member {written : String × List Char} {member : Member}
    (spelled : SpellsMember written member) :
    Lexes (ofString written.1 ++ ':' :: written.2) (.text member.1 :: .colon :: member.2.tokens) := by
  obtain ⟨key, value⟩ := member
  obtain ⟨rfl, valueSpelled⟩ := spelled
  exact lexes_ofString _ (.char ':' rfl valueSpelled)

theorem lexes_separate_members {written : List (String × List Char)} {members : List Member}
    (spelled : List.Forall₂ SpellsMember written members) :
    Lexes (separate (written.map (fun (key, value) => ofString key ++ ':' :: value)))
      (memberTokens members) := by
  induction spelled with
  | nil =>
      rw [List.map_nil, separate, memberTokens]
      exact .nil
  | @cons text member texts members first others ih =>
      cases others with
      | nil =>
          rw [List.map_cons, List.map_nil, separate, memberTokens]
          exact lexes_member first
      | cons second others =>
          rw [memberTokens_cons member (List.cons_ne_nil _ _)]
          exact (lexes_member first).append (by rintro _ ⟨⟩; rfl) (.char ',' rfl ih)

theorem spells_ofMembers {written : List (String × List Char)} {members : List Member}
    (spelled : List.Forall₂ SpellsMember written members) :
    Spells (ofMembers written) (.object members) := by
  have closing : Lexes ['\x7d'] [.closeObject] := .char '\x7d' rfl .nil
  rw [Spells, Tree.tokens, ofMembers]
  exact .char '\x7b' rfl
    ((lexes_separate_members spelled).append (by rintro _ ⟨⟩; rfl) closing)

end ComputeTopology.Json
