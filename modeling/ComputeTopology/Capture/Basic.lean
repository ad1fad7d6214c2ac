import ComputeTopology.Inventory.Kind

/-! # Captures

A capture describes a whole topology, so that it can be surveyed again without
the hardware. Every field may be absent: it is then a fact that the platform
does not report, and an agent without a class or a region without a segment
cannot be classified.
-/

namespace ComputeTopology.Capture

structure Region where
  segment : Option Segment
  size : Option UInt64
  hostAccessible : Option Bool
deriving DecidableEq

structure Cache where
  level : Option UInt8
  size : Option UInt32
  associativity : Option UInt32
deriving DecidableEq

structure Agent where
  nodeId : Option UInt32
  name : Option String
  productName : Option String
  device : Option DeviceClass
  computeUnits : Option UInt32
  simdsPerUnit : Option UInt32
  maxWavesPerUnit : Option UInt32
  chipId : Option UInt32
  locationId : Option UInt32
  domain : Option UInt32
  regions : List Region
  caches : List Cache
deriving DecidableEq

structure Topology where
  versionMajor : Option UInt16
  versionMinor : Option UInt16
  generationId : Option UInt32
  platformOem : Option UInt64
  platformId : Option UInt32
  platformRevision : Option UInt32
  agents : List Agent
deriving DecidableEq

end ComputeTopology.Capture
