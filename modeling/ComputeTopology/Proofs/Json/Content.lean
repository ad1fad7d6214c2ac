import Mathlib.Data.List.Basic
import ComputeTopology.Json.Grammar

namespace ComputeTopology.Json.PartialText

variable {text : PartialText} {value : Nat}

def take (text : PartialText) : Piece → PartialText
  | .char c => text.push c
  | .unit value => text.pushUnit value

theorem take_high (high : Piece.isHigh value = true) :
    text.take (.unit value) = { text.settle with high := some value, position := .plain } := by
  simp only [Piece.isHigh, Bool.and_eq_true, decide_eq_true_eq] at high
  simp only [take, pushUnit, if_pos high]

theorem take_low (low : Piece.isLow value = true) :
    text.take (.unit value) =
      match text.high with
      | some high =>
          { text with
            reversed := Piece.paired high value :: text.reversed, high := none, position := .plain }
      | none => { text with broken := true, position := .plain } := by
  simp only [Piece.isLow, Bool.and_eq_true, decide_eq_true_eq] at low
  have notHigh : ¬ (0xd800 ≤ value ∧ value < 0xdc00) := by omega
  simp only [take, pushUnit, if_neg notHigh, if_pos low]
  rfl

theorem take_unit (notHigh : Piece.isHigh value = false) (notLow : Piece.isLow value = false) :
    text.take (.unit value) = text.push (Char.ofNat value) := by
  simp only [Piece.isHigh, Bool.and_eq_false_iff, decide_eq_false_iff_not] at notHigh
  simp only [Piece.isLow, Bool.and_eq_false_iff, decide_eq_false_iff_not] at notLow
  have first : ¬ (0xd800 ≤ value ∧ value < 0xdc00) := by omega
  have second : ¬ (0xdc00 ≤ value ∧ value < 0xe000) := by omega
  simp only [take, pushUnit, if_neg first, if_neg second]

theorem settle_broken (lost : text.broken = true ∨ text.high.isSome = true) :
    text.settle.broken = true := by
  simpa only [settle, Bool.or_eq_true] using lost

/-- A string that lost a surrogate never has content again. -/
theorem broken_take (broken : text.broken = true) (piece : Piece) :
    (text.take piece).broken = true := by
  have settled := settle_broken (.inl broken)
  cases piece with
  | char c => exact settled
  | unit value =>
      by_cases high : Piece.isHigh value = true
      · rw [take_high high]
        exact settled
      · by_cases low : Piece.isLow value = true
        · rw [take_low low]
          split
          · exact broken
          · rfl
        · rw [take_unit (eq_false_of_ne_true high) (eq_false_of_ne_true low)]
          exact settled

theorem content_of_broken (pieces : List Piece) (broken : text.broken = true) :
    (pieces.foldl take text).content = none := by
  induction pieces generalizing text with
  | nil =>
      have settled := settle_broken (.inl broken)
      simp only [List.foldl_nil, content, settled, if_true]
  | cons piece rest ih => exact ih (broken_take broken piece)

/-- A high surrogate stays alone unless a low one comes next. -/
theorem content_of_waiting {pieces : List Piece} (waiting : text.high.isSome = true)
    (unpaired : ∀ low rest, pieces = .unit low :: rest → Piece.isLow low = false) :
    (pieces.foldl take text).content = none := by
  have settled := settle_broken (.inr waiting)
  cases pieces with
  | nil => simp only [List.foldl_nil, content, settled, if_true]
  | cons piece rest =>
      rw [List.foldl_cons]
      apply content_of_broken
      cases piece with
      | char c => exact settled
      | unit value =>
          have notLow := unpaired value rest rfl
          by_cases high : Piece.isHigh value = true
          · rw [take_high high]
            exact settled
          · rw [take_unit (eq_false_of_ne_true high) notLow]
            exact settled

/-- Nothing was lost of a string and no surrogate waits. -/
structure Clear (text : PartialText) : Prop where
  high : text.high = none
  intact : text.broken = false

theorem Clear.settle (clear : text.Clear) : text.settle = text := by
  obtain ⟨reversed, high, broken, position⟩ := text
  obtain ⟨rfl, rfl⟩ := clear
  rfl

theorem Clear.content (clear : text.Clear) :
    text.content = some (String.ofList text.reversed.reverse) := by
  simp [PartialText.content, clear.settle, clear.intact]

/-- The string holds what it held before and then what the pieces stand for. -/
def ReadsOn (pieces : List Piece) : Prop :=
  ∀ {text : PartialText}, text.Clear →
    (pieces.foldl take text).content =
      (Piece.characters? pieces).map (fun read => String.ofList (text.reversed.reverse ++ read))

theorem ReadsOn.content_push {pieces : List Piece} (readsOn : ReadsOn pieces) (clear : text.Clear)
    (c : Char) :
    (pieces.foldl take (text.push c)).content =
      ((Piece.characters? pieces).map (c :: ·)).map
        (fun read => String.ofList (text.reversed.reverse ++ read)) := by
  have pushed : (text.push c).Clear := by
    simp only [push, clear.settle]
    exact ⟨clear.high, clear.intact⟩
  have grown : (text.push c).reversed.reverse = text.reversed.reverse ++ [c] := by
    simp only [push, clear.settle, List.reverse_cons]
  rw [readsOn pushed, grown, Option.map_map]
  simp only [Function.comp_def, List.append_assoc, List.singleton_append]

theorem readsOn (pieces : List Piece) : ReadsOn pieces := by
  fun_induction Piece.characters? pieces with
  | case1 =>
      intro text clear
      simp only [List.foldl_nil, clear.content, Piece.characters?, Option.map_some, List.append_nil]
  | case2 c rest ih =>
      intro text clear
      exact ReadsOn.content_push ih clear c
  | case3 value high low rest isLow ih =>
      intro text clear
      -- The pair is read as if the character it stands for had been read.
      have paired : (text.take (.unit value)).take (.unit low) =
          text.push (Piece.paired value low) := by
        rw [take_high high, take_low isLow, push, clear.settle, clear.high]
      rw [List.foldl_cons, List.foldl_cons, paired, ReadsOn.content_push ih clear]
      simp only [Piece.characters?, high, isLow, if_true]
  | case4 value high low rest notLow =>
      intro text clear
      rw [List.foldl_cons, take_high high, content_of_waiting rfl]
      · simp only [Piece.characters?, high, notLow, if_true, Bool.false_eq_true, if_false,
          Option.map_none]
      · rintro _ _ ⟨⟩
        exact eq_false_of_ne_true notLow
  | case5 value rest high unpaired =>
      intro text clear
      rw [List.foldl_cons, take_high high, content_of_waiting rfl]
      · cases rest with
        | nil => simp only [Piece.characters?, high, if_true, Option.map_none]
        | cons piece later =>
            cases piece with
            | char c => simp only [Piece.characters?, high, if_true, Option.map_none]
            | unit low => exact (unpaired low later rfl).elim
      · intro low later same
        exact (unpaired low later same).elim
  | case6 value rest notHigh low =>
      intro text clear
      rw [List.foldl_cons, take_low low, clear.high, content_of_broken _ rfl]
      rw [Piece.characters?.eq_def]
      simp only [notHigh, low, if_true, Bool.false_eq_true, if_false, Option.map_none]
  | case7 value rest notHigh notLow ih =>
      intro text clear
      rw [List.foldl_cons, take_unit (eq_false_of_ne_true notHigh) (eq_false_of_ne_true notLow),
        ReadsOn.content_push ih clear]
      rw [Piece.characters?.eq_def (.unit value :: rest)]
      simp only [notHigh, notLow, Bool.false_eq_true, if_false]

/-- What is read of a string is what its pieces stand for. -/
theorem content_foldl_take (pieces : List Piece) :
    (pieces.foldl take start).content = (Piece.characters? pieces).map String.ofList :=
  readsOn pieces ⟨rfl, rfl⟩

end ComputeTopology.Json.PartialText
