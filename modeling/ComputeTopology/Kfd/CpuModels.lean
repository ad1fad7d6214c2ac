import ComputeTopology.FileTree.Basic
import ComputeTopology.Text.Numeral

/-! # CPU models

The kernel describes every processor in a block of lines, and blank lines
separate the blocks. A block that has both an APIC number and a model name maps
the one to the other, and later blocks go before earlier ones. An APIC number
that is not a number takes back one given before in the same block.
-/

namespace ComputeTopology.Kfd

/-- Model names by APIC number, those of later blocks first. -/
structure CpuModels where
  entries : List (UInt32 × String)

namespace CpuModels

/-- What a block has said so far. -/
structure Block where
  apicId : Option UInt32
  model : Option String

namespace Block

def empty : Block := ⟨none, none⟩

/-- The entry of a block that is complete. -/
def entry? (block : Block) : Option (UInt32 × String) :=
  match block.apicId, block.model with
  | some apicId, some model => some (apicId, model)
  | _, _ => none

/-- Take in a line that is not blank. -/
def take (block : Block) (line : List Char) : Block :=
  match Text.cut? ':' line with
  | none => block
  | some (key, value) =>
      let key := String.ofList (Text.trim key)
      if key = "apicid" ∨ key = "initial apicid" then
        { block with apicId := Text.Numeral.word? 10 (Text.trim value) }
      else if key = "model name" then
        { block with model := some (String.ofList (Text.trim value)) }
      else block

end Block

/-- The blocks closed so far, and the one being read. -/
structure Progress where
  entries : List (UInt32 × String)
  block : Block

namespace Progress

def start : Progress := ⟨[], .empty⟩

def close (progress : Progress) : Progress where
  entries := progress.block.entry?.toList ++ progress.entries
  block := .empty

/-- A blank line closes the block, and any other line belongs to it. -/
def step (progress : Progress) (line : List Char) : Progress :=
  if Text.allBlank line then progress.close
  else { progress with block := progress.block.take line }

end Progress

def parse (text : String) : CpuModels :=
  ⟨((Text.lines text.toList).foldl Progress.step .start).close.entries⟩

/-- The models in the file at a path, none if it cannot be read. -/
def load (files : FileTree) (path : String) : CpuModels :=
  match files.readText path with
  | .ok text => parse text
  | .error _ => ⟨[]⟩

def model? (models : CpuModels) (apicId : UInt32) : Option String :=
  models.entries.lookup apicId

end CpuModels

end ComputeTopology.Kfd
