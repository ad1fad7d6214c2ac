import ComputeTopology.Text.Numeral

/-! # Graphics version overrides

The environment can override the graphics version of all nodes by one variable,
and of a single node by a variable of the same name followed by an underscore
and the node's number. The single node's variable goes first. Of several
assignments to the same node the last one counts.
-/

namespace ComputeTopology.Kfd

structure Overrides where
  global : Option String
  /-- Overrides of single nodes, by ascending number. -/
  perNode : List (UInt32 × String)
deriving DecidableEq

namespace Overrides

def variableName : String := "HSA_OVERRIDE_GFX_VERSION"

def empty : Overrides := ⟨none, []⟩

/-- Assign a node in a list that ascends. -/
def assign (node : UInt32) (value : String) : List (UInt32 × String) → List (UInt32 × String)
  | [] => [(node, value)]
  | (taken, found) :: rest =>
      if node < taken then (node, value) :: (taken, found) :: rest
      else if node = taken then (node, value) :: rest
      else (taken, found) :: assign node value rest

/-- The node whose variable this is. -/
def nodeOf? (variableNamed : String) : Option UInt32 :=
  let stem := (variableName ++ "_").toList
  let named := variableNamed.toList
  if stem.isPrefixOf named then Text.Numeral.word? 10 (named.drop stem.length) else none

def take (overrides : Overrides) : String × String → Overrides
  | (named, value) =>
      if named = variableName then { overrides with global := some value }
      else
        match nodeOf? named with
        | some node => { overrides with perNode := assign node value overrides.perNode }
        | none => overrides

def ofVariables (assignments : List (String × String)) : Overrides :=
  assignments.foldl take empty

def forNode (overrides : Overrides) (node : UInt32) : Option String :=
  (overrides.perNode.lookup node).or overrides.global

end Overrides

end ComputeTopology.Kfd
