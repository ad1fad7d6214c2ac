import ComputeTopology.FileTree.Basic
import ComputeTopology.Text.Numeral

/-! # Properties files

Every line of a properties file gives a value to a key: its first two words.
What follows them is ignored, and so is a line with fewer. The last line for
a key counts. Values stay text until they are asked for, and a value that is not
a number of the wanted width is as good as absent.
-/

namespace ComputeTopology.Kfd

/-- Keys and values, those of later lines first. -/
structure Properties where
  entries : List (List Char × List Char)

/-- A properties file that cannot be read. -/
structure Unreadable where
  path : String
  cause : AccessError
deriving DecidableEq

def Unreadable.message (failure : Unreadable) : String :=
  "Failed to read " ++ failure.path ++ ": " ++ failure.cause.message

namespace Properties

/-- The key and value of a line, if it has both. -/
def entry? (line : List Char) : Option (List Char × List Char) :=
  match Text.words line with
  | key :: value :: _ => some (key, value)
  | _ => none

def parse (text : String) : Properties :=
  ⟨((Text.lines text.toList).filterMap entry?).reverse⟩

def value? (properties : Properties) (key : String) : Option (List Char) :=
  properties.entries.lookup key.toList

def word? {α : Type} [Word α] (properties : Properties) (key : String) : Option α :=
  (properties.value? key).bind (Text.Numeral.word? 10)

def signed32? (properties : Properties) (key : String) : Option Int :=
  (properties.value? key).bind Text.Numeral.signed32?

/-- The value of a key as a 32-bit number, zero if there is none. -/
def count (properties : Properties) (key : String) : UInt32 :=
  (properties.word? key).getD 0

def read (files : FileTree) (path : String) : Except Unreadable Properties :=
  match files.readText path with
  | .ok text => .ok (parse text)
  | .error cause => .error { path, cause }

end Properties

end ComputeTopology.Kfd
