import ComputeTopology.Inventory.Agent
import ComputeTopology.Text.Numeral

/-! # Inventories

What a survey of a platform yields: its agents in the platform's order, and the
facts about the system as a whole.
-/

namespace ComputeTopology

structure InterfaceVersion where
  major : UInt16
  minor : UInt16
deriving DecidableEq

def InterfaceVersion.text (version : InterfaceVersion) : String :=
  Text.Numeral.decimal version.major.toNat ++ "." ++ Text.Numeral.decimal version.minor.toNat

structure SystemFacts where
  version : InterfaceVersion
  generationId : Option UInt32
  platformOem : Option UInt64
  platformId : Option UInt32
  platformRevision : Option UInt32
  nodeCount : Option UInt32
deriving DecidableEq

structure Inventory where
  agents : List Agent
deriving DecidableEq

namespace Inventory

def size (inventory : Inventory) : Nat :=
  inventory.agents.length

def isEmpty (inventory : Inventory) : Bool :=
  inventory.agents.isEmpty

/-- Class, number of regions and number of caches of every agent. -/
def shape (inventory : Inventory) : List (DeviceClass × Nat × Nat) :=
  inventory.agents.map (fun agent => (agent.deviceClass, agent.regions.length, agent.caches.length))

def count (inventory : Inventory) (deviceClass : DeviceClass) : Nat :=
  (inventory.agents.filter (·.deviceClass == deviceClass)).length

end Inventory

end ComputeTopology
