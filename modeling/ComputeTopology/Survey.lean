import ComputeTopology.Inventory.Basic
import ComputeTopology.Platform.Basic

/-! # Surveys

A survey walks over everything a platform lists and describes it. Two queries
decide: without the class of an agent or the segment of a region the object
cannot be classified. Any other query that fails leaves its figure unknown.
Policy decides what becomes of an object that cannot be classified: the survey
ends there, or goes on without it. A list that cannot be had always ends it.
-/

namespace ComputeTopology.Survey

open Attribute

inductive Policy where
  /-- End at the first object that cannot be classified. -/
  | failFast
  /-- Leave out objects that cannot be classified. -/
  | skipObject
deriving DecidableEq

/-- Whether a policy goes on after a failure. -/
def Policy.skips (policy : Policy) (failure : Failure) : Bool :=
  policy == .skipObject && failure.isClassification

/-- The places handed out to the global regions of one agent. -/
structure GlobalCounter where
  issued : UInt32
deriving DecidableEq

namespace GlobalCounter

def fresh : GlobalCounter := ⟨0⟩

/-- Hand out the next place. -/
def claim (counter : GlobalCounter) : UInt32 × GlobalCounter :=
  (counter.issued, ⟨counter.issued + 1⟩)

end GlobalCounter

variable (platform : Queries)

def region (handle : RegionHandle) (counter : GlobalCounter) :
    Except Failure (MemoryRegion × GlobalCounter) :=
  match platform.regionAs Segment handle .segment with
  | .error cause => .error (.classification handle.label cause)
  | .ok segment =>
      let sizeBytes := (platform.regionAs UInt64 handle .size).toOption
      let hostAccessible := (platform.regionAs Bool handle .hostAccessible).toOption
      if segment = .global then
        let (index, next) := counter.claim
        .ok ({ segment, sizeBytes, hostAccessible, globalIndex := some index }, next)
      else
        .ok ({ segment, sizeBytes, hostAccessible, globalIndex := none }, counter)

/-- Describe the regions of one agent in order. A region that is left out takes
    no place among the global ones. -/
def regions (policy : Policy) :
    List RegionHandle → GlobalCounter → Except Failure (List MemoryRegion)
  | [], _ => .ok []
  | handle :: rest, counter =>
      match region platform handle counter with
      | .ok (found, next) =>
          match regions policy rest next with
          | .ok others => .ok (found :: others)
          | .error failure => .error failure
      | .error failure =>
          if policy.skips failure then regions policy rest counter else .error failure

def cache (handle : CacheHandle) : Cache where
  level := (platform.cacheAs UInt8 handle .level).toOption
  sizeBytes := (platform.cacheAs UInt32 handle .size).toOption
  associativity := (platform.cacheAs UInt32 handle .associativity).toOption

def gpuFigures (handle : AgentHandle) : GpuFigures :=
  let figure (selector : AgentAttribute) := (platform.agentAs UInt32 handle selector).toOption
  .derive (figure .computeUnitCount) (figure .simdsPerUnit) (figure .maxWavesPerUnit)
    (figure .chipId) (figure .slotId) (figure .domain)

/-- The figures that an agent of this class has. -/
def kind (handle : AgentHandle) : DeviceClass → AgentKind
  | .cpu => .cpu (platform.agentAs UInt32 handle .computeUnitCount).toOption
  | .gpu => .gpu (gpuFigures platform handle)
  | .other => .other

def name (handle : AgentHandle) : String :=
  Agent.displayName (platform.agentAs String handle .productName).toOption
    (platform.agentAs String handle .name).toOption

def agent (policy : Policy) (handle : AgentHandle) : Except Failure Agent := do
  let deviceClass ←
    (platform.agentAs DeviceClass handle .device).mapError (.classification handle.label)
  let regionHandles ← (platform.regions handle).mapError (.traversal "region enumeration")
  let found ← regions platform policy regionHandles .fresh
  let cacheHandles ← (platform.caches handle).mapError (.traversal "cache enumeration")
  return {
    nodeId := (platform.agentAs UInt32 handle .nodeId).toOption
    name := name platform handle
    kind := kind platform handle deviceClass
    regions := found
    caches := cacheHandles.map (cache platform) }

/-- Describe agents in order. -/
def agents (policy : Policy) : List AgentHandle → Except Failure (List Agent)
  | [] => .ok []
  | handle :: rest =>
      match agent platform policy handle with
      | .ok found =>
          match agents policy rest with
          | .ok others => .ok (found :: others)
          | .error failure => .error failure
      | .error failure =>
          if policy.skips failure then agents policy rest else .error failure

/-- Everything the platform lists. -/
def inventory (policy : Policy) : Except Failure Inventory := do
  let handles ← platform.agents.mapError (.traversal "agent enumeration")
  let found ← agents platform policy handles
  return ⟨found⟩

def versionPart (selector : SystemAttribute) : Except Failure UInt16 :=
  (platform.systemAs UInt16 selector).mapError
    (fun cause => .initialization "system version query" (.unavailable cause.message))

/-- The facts about the system. Only its version has to be known. -/
def systemFacts : Except Failure SystemFacts := do
  let major ← versionPart platform .versionMajor
  let minor ← versionPart platform .versionMinor
  return {
    version := { major, minor }
    generationId := (platform.systemAs UInt32 .generationId).toOption
    platformOem := (platform.systemAs UInt64 .platformOem).toOption
    platformId := (platform.systemAs UInt32 .platformId).toOption
    platformRevision := (platform.systemAs UInt32 .platformRevision).toOption
    nodeCount := (platform.systemAs UInt32 .nodeCount).toOption }

end ComputeTopology.Survey
