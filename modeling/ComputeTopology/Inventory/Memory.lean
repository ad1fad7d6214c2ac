import ComputeTopology.Inventory.Kind

/-! # Memory regions and caches

A figure that the platform could not supply is absent. A size of zero is what
the platform said, and means that it does not know either.
-/

namespace ComputeTopology

structure MemoryRegion where
  segment : Segment
  sizeBytes : Option UInt64
  hostAccessible : Option Bool
  /-- The place among its agent's global regions, for global regions only. -/
  globalIndex : Option UInt32
deriving DecidableEq

namespace MemoryRegion

def isGlobal (region : MemoryRegion) : Bool :=
  region.segment == .global

def knownSize (region : MemoryRegion) : Option UInt64 :=
  region.sizeBytes.filter (· != 0)

end MemoryRegion

structure Cache where
  /-- Level one is nearest to the compute units. -/
  level : Option UInt8
  sizeBytes : Option UInt32
  associativity : Option UInt32
deriving DecidableEq

def Cache.reportedZero (cache : Cache) : Bool :=
  cache.sizeBytes == some 0

end ComputeTopology
