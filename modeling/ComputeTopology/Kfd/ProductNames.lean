import ComputeTopology.FileTree.Basic
import ComputeTopology.Text.Numeral

/-! # Product names

A table names the products of a vendor by device number and revision, both in
hexadecimal. A row has three fields with commas between them, and further commas
belong to the name. Comments, empty lines and rows of any other form are passed
over. The first row for a device and revision counts.
-/

namespace ComputeTopology.Kfd

abbrev ProductKey := UInt32 × UInt32

/-- The rows of a table in order. -/
structure ProductNames where
  rows : List (ProductKey × String)

namespace ProductNames

def row? (line : List Char) : Option (ProductKey × String) := do
  let trimmed := Text.trim line
  if trimmed.head? == some '#' then none
  let (device, rest) ← Text.cut? ',' trimmed
  let (revision, name) ← Text.cut? ',' rest
  let device ← Text.Numeral.word? 16 (Text.trim device)
  let revision ← Text.Numeral.word? 16 (Text.trim revision)
  return ((device, revision), String.ofList (Text.trim name))

def parse (text : String) : ProductNames :=
  ⟨(Text.lines text.toList).filterMap row?⟩

/-- The rows of the file at a path, none if it cannot be read. -/
def rowsAt (files : FileTree) (path : String) : List (ProductKey × String) :=
  match files.readText path with
  | .ok text => (parse text).rows
  | .error _ => []

/-- All tables at some paths, the rows of earlier ones first. -/
def load (files : FileTree) (paths : List String) : ProductNames :=
  ⟨paths.flatMap (rowsAt files)⟩

def name? (names : ProductNames) (device revision : UInt32) : Option String :=
  names.rows.lookup (device, revision)

/-- How many devices and revisions have a name. -/
def size (names : ProductNames) : Nat :=
  (names.rows.map (·.1)).eraseDups.length

end ProductNames

/-- The revision a PCI device states, in hexadecimal with or without `0x` in front. -/
def pciRevision? (text : String) : Option UInt32 :=
  match Text.trim text.toList with
  | '0' :: 'x' :: digits => Text.Numeral.word? 16 digits
  | digits => Text.Numeral.word? 16 digits

def readPciRevision? (files : FileTree) (path : String) : Option UInt32 :=
  match files.readText path with
  | .ok text => pciRevision? text
  | .error _ => none

end ComputeTopology.Kfd
