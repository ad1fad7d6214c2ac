import ComputeTopology.FileTree.Basic
import ComputeTopology.Text.Numeral

/-! # Numbered directories

The kernel gives every node, bank and cache a directory named by its number.
They are visited in numeric order, whatever the order of the listing. Files and
other names beside them are passed over.
-/

namespace ComputeTopology.FileTree

/-- A subdirectory whose name is a 32-bit number. -/
structure Numbered where
  number : UInt32
  name : String
deriving DecidableEq

def numbered? : String × FileTree → Option Numbered
  | (_, .file _) => none
  | (name, .directory _) =>
      (Text.Numeral.word? 10 name.toList).map (fun number => { number, name })

/-- Put an entry before the first one with a greater number. -/
def insertNumbered (entry : Numbered) : List Numbered → List Numbered
  | [] => [entry]
  | first :: rest =>
      if entry.number < first.number then entry :: first :: rest
      else first :: insertNumbered entry rest

/-- The numbered directories of a listing in numeric order. -/
def sortNumbered (entries : List Numbered) : List Numbered :=
  entries.foldl (fun sorted entry => insertNumbered entry sorted) []

/-- The numbered directories at a path, none if it is no directory. -/
def numberedEntries (root : FileTree) (path : String) : List Numbered :=
  match root.locate path with
  | .ok (.directory entries) => sortNumbered (entries.filterMap numbered?)
  | _ => []

end ComputeTopology.FileTree
