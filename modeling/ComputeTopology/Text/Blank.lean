/-! # Blank characters

A character is blank when Unicode gives it the `White_Space` property. Trimming
and splitting into words both follow this one class, so a zero width space or a
byte order mark is an ordinary character, and a no-break space is blank.
-/

namespace ComputeTopology.Text

/-- Code points with the `White_Space` property, in ascending order. -/
def blankCodePoints : List Nat :=
  [0x09, 0x0a, 0x0b, 0x0c, 0x0d, 0x20, 0x85, 0xa0, 0x1680,
   0x2000, 0x2001, 0x2002, 0x2003, 0x2004, 0x2005, 0x2006, 0x2007, 0x2008, 0x2009, 0x200a,
   0x2028, 0x2029, 0x202f, 0x205f, 0x3000]

def isBlank (c : Char) : Bool :=
  blankCodePoints.contains c.toNat

/-- Drop the blanks at both ends. -/
def trim (text : List Char) : List Char :=
  ((text.dropWhile isBlank).reverse.dropWhile isBlank).reverse

/-- A text of blanks only, the empty text included. -/
def allBlank (text : List Char) : Bool :=
  text.all isBlank

@[simp] theorem trim_nil : trim [] = [] := rfl

end ComputeTopology.Text
