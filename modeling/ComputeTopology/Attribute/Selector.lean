/-! # Attribute selectors

What can be asked of the system as a whole, of an agent, of a memory region and
of a cache. Every selector has a label, by which messages about a failed query name it.
-/

namespace ComputeTopology

inductive SystemAttribute where
  | versionMajor
  | versionMinor
  | generationId
  | platformOem
  | platformId
  | platformRevision
  | nodeCount
deriving DecidableEq

namespace SystemAttribute

def all : List SystemAttribute :=
  [.versionMajor, .versionMinor, .generationId, .platformOem, .platformId, .platformRevision, .nodeCount]

def label : SystemAttribute → String
  | .versionMajor => "version_major"
  | .versionMinor => "version_minor"
  | .generationId => "generation_id"
  | .platformOem => "platform_oem"
  | .platformId => "platform_id"
  | .platformRevision => "platform_revision"
  | .nodeCount => "node_count"

end SystemAttribute

inductive AgentAttribute where
  | name
  | productName
  | device
  | nodeId
  | computeUnitCount
  | simdsPerUnit
  | maxWavesPerUnit
  | chipId
  /-- Bus, device and function of the agent's slot. -/
  | slotId
  | domain
deriving DecidableEq

namespace AgentAttribute

def all : List AgentAttribute :=
  [.name, .productName, .device, .nodeId, .computeUnitCount, .simdsPerUnit, .maxWavesPerUnit, .chipId,
   .slotId, .domain]

def label : AgentAttribute → String
  | .name => "name"
  | .productName => "product_name"
  | .device => "device"
  | .nodeId => "node_id"
  | .computeUnitCount => "compute_unit_count"
  | .simdsPerUnit => "simds_per_cu"
  | .maxWavesPerUnit => "max_waves_per_cu"
  | .chipId => "chip_id"
  | .slotId => "bdf_id"
  | .domain => "domain"

end AgentAttribute

inductive RegionAttribute where
  | segment
  | size
  | hostAccessible
deriving DecidableEq

namespace RegionAttribute

def all : List RegionAttribute := [.segment, .size, .hostAccessible]

def label : RegionAttribute → String
  | .segment => "segment"
  | .size => "size"
  | .hostAccessible => "host_accessible"

end RegionAttribute

inductive CacheAttribute where
  | level
  | size
  | associativity
deriving DecidableEq

namespace CacheAttribute

def all : List CacheAttribute := [.level, .size, .associativity]

def label : CacheAttribute → String
  | .level => "level"
  | .size => "size"
  | .associativity => "associativity"

end CacheAttribute

end ComputeTopology
