import ComputeTopology.Text.Blank

/-! # Cutting a text into pieces

A text is cut at every separator, at the first one only, into words, or into
lines. Lines end at a line feed. One carriage return just before that line feed
belongs to the line's end, and text after the last line feed is a line if there
is any.
-/

namespace ComputeTopology.Text

/-- The piece before the first separator, and the pieces after it. -/
def splitFirst (separates : Char → Bool) (text : List Char) : List Char × List (List Char) :=
  text.foldr
    (fun c (piece, pieces) => if separates c then ([], piece :: pieces) else (c :: piece, pieces))
    ([], [])

/-- Every piece between separators. There is always one more than separators. -/
def split (separates : Char → Bool) (text : List Char) : List (List Char) :=
  let (piece, pieces) := splitFirst separates text
  piece :: pieces

/-- What stands before and after the first occurrence of a character. -/
def cut? (separator : Char) (text : List Char) : Option (List Char × List Char) :=
  match text.dropWhile (· != separator) with
  | [] => none
  | _ :: after => some (text.takeWhile (· != separator), after)

/-- The longest runs of characters that are not blank. -/
def words (text : List Char) : List (List Char) :=
  (split isBlank text).filter (!·.isEmpty)

/-- Drop one carriage return at the end of a line. -/
def withoutReturn (line : List Char) : List Char :=
  match line.reverse with
  | '\r' :: rest => rest.reverse
  | _ => line

def lines (text : List Char) : List (List Char) :=
  let pieces := split (· == '\n') text
  pieces.dropLast.map withoutReturn ++ pieces.getLast?.toList.filter (!·.isEmpty)

@[simp] theorem split_nil (separates : Char → Bool) : split separates [] = [[]] := rfl

theorem split_cons_of_separates {separates : Char → Bool} {c : Char} (separator : separates c = true)
    (text : List Char) : split separates (c :: text) = [] :: split separates text := by
  simp [split, splitFirst, separator]

theorem split_ne_nil (separates : Char → Bool) (text : List Char) : split separates text ≠ [] := by
  simp [split]

end ComputeTopology.Text
