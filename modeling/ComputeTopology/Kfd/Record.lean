import ComputeTopology.Inventory.Kind
import ComputeTopology.Kfd.Properties

/-! # Records of the kernel's topology

What is kept of a memory bank, a cache, an agent and the system as a whole. The
kernel gives every bank a heap type, which decides its segment and whether the
host has access, and gives sizes of caches and of local memory in units of 1024
bytes. A size that does not fit its width in bytes is unknown.
-/

namespace ComputeTopology.Kfd

structure RegionRecord where
  segment : Segment
  size : Option UInt64
  hostAccessible : Bool
deriving DecidableEq

structure CacheRecord where
  level : Option UInt8
  size : Option UInt32
  associativity : Option UInt32
  /-- The lowest number of a processor that uses the cache. -/
  firstProcessor : Option UInt32
deriving DecidableEq

structure AgentRecord where
  nodeId : UInt32
  deviceClass : Option DeviceClass
  name : Option String
  productName : Option String
  computeUnits : Option UInt32
  simdsPerUnit : Option UInt32
  maxWavesPerUnit : Option UInt32
  chipId : Option UInt32
  locationId : Option UInt32
  domain : Option UInt32
  regions : List RegionRecord
  caches : List CacheRecord
deriving DecidableEq

/-- An agent of which nothing but its node is known. -/
def AgentRecord.ofNode (nodeId : UInt32) : AgentRecord where
  nodeId
  deviceClass := none
  name := none
  productName := none
  computeUnits := none
  simdsPerUnit := none
  maxWavesPerUnit := none
  chipId := none
  locationId := none
  domain := none
  regions := []
  caches := []

structure SystemRecord where
  generationId : Option UInt32
  platformOem : Option UInt64
  platformId : Option UInt32
  platformRevision : Option UInt32
  nodeCount : UInt32
deriving DecidableEq

namespace RegionRecord

/-- What a heap type of the kernel means: the segment, and whether the host has access. -/
def heap : Option UInt32 → Segment × Bool
  | some 0 => (.global, true)
  | some 1 => (.global, false)
  | some 2 => (.global, false)
  | some 4 => (.group, false)
  | some 5 => (.priv, false)
  | _ => (.unknown, false)

def ofBank (properties : Properties) : RegionRecord :=
  let (segment, hostAccessible) := heap (properties.word? "heap_type")
  { segment, size := properties.word? "size_in_bytes", hostAccessible }

def isHostMemory (region : RegionRecord) : Bool :=
  region.segment == .global && region.hostAccessible

/-- The local memory of a GPU, whose size is given in units of 1024 bytes. -/
def localMemory (kilobytes : UInt64) : RegionRecord where
  segment := .group
  size := Word.times? kilobytes 1024
  hostAccessible := false

end RegionRecord

namespace CacheRecord

/-- The size of a cache is given in units of 1024 bytes. -/
def ofProperties (properties : Properties) : CacheRecord where
  level := properties.word? "level"
  size := (properties.word? "size").bind (Word.times? · 1024)
  associativity := properties.word? "association"
  firstProcessor := properties.word? "processor_id_low"

/-- Whether a cache belongs to processors from a number on. -/
def isFrom (first : UInt32) (cache : CacheRecord) : Bool :=
  match cache.firstProcessor with
  | some processor => first ≤ processor
  | none => false

end CacheRecord

end ComputeTopology.Kfd
