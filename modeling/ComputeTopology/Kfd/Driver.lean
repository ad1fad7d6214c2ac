import ComputeTopology.Kfd.Snapshot
import ComputeTopology.Platform.Basic

/-! # The platform of the kernel driver

The platform answers from a snapshot until it is shut down. It speaks interface
version 1.1. An agent's handle is its place in the snapshot, and a region's or
a cache's handle holds its agent's place and its own.
-/

namespace ComputeTopology.Kfd

open Attribute

structure Driver where
  snapshot : Snapshot
  initialized : Bool
deriving DecidableEq

namespace Driver

def interfaceMajor : UInt16 := 1

def interfaceMinor : UInt16 := 1

def start (files : FileTree) (locations : Locations) : Except PlatformError Driver :=
  match Snapshot.load files locations with
  | .ok snapshot => .ok { snapshot, initialized := true }
  | .error failure => .error (.unavailable failure.message)

/-- The record of an agent, for calls that fail with an error of the platform. -/
def agentRecord (driver : Driver) (handle : AgentHandle) : Except PlatformError AgentRecord :=
  if driver.initialized then
    match driver.snapshot.agents[handle.bits.toNat]? with
    | some found => .ok found
    | none => .error (.invalidHandle ObjectKind.agent.name handle.bits)
  else .error .notInitialized

/-- Why an attribute is unavailable when the platform failed. -/
def reasonOf : PlatformError → Reason
  | .notInitialized => .notInitialized
  | _ => .invalidHandle

/-- The record of one of an agent's objects, for questions that fail with a reason. -/
def objectRecord {kind : ObjectKind} {α : Type} (driver : Driver) (objects : AgentRecord → List α)
    (handle : Handle kind) : Except Reason α :=
  match driver.agentRecord (.ofPlace handle.agentPlace) with
  | .error failure => .error (reasonOf failure)
  | .ok owner =>
      match (objects owner)[handle.objectPlace]? with
      | some found => .ok found
      | none => .error .invalidHandle

def regionRecord (driver : Driver) (handle : RegionHandle) : Except Reason RegionRecord :=
  driver.objectRecord AgentRecord.regions handle

def cacheRecord (driver : Driver) (handle : CacheHandle) : Except Reason CacheRecord :=
  driver.objectRecord AgentRecord.caches handle

def system (driver : Driver) (selector : SystemAttribute) : Answer :=
  if driver.initialized then
    let known := driver.snapshot.system
    match selector with
    | .versionMajor => .ok (.u16 interfaceMajor)
    | .versionMinor => .ok (.u16 interfaceMinor)
    | .generationId => .ofFact selector.label .u32 known.generationId
    | .platformOem => .ofFact selector.label .u64 known.platformOem
    | .platformId => .ofFact selector.label .u32 known.platformId
    | .platformRevision => .ofFact selector.label .u32 known.platformRevision
    | .nodeCount => .ok (.u32 known.nodeCount)
  else .error ⟨selector.label, .notInitialized⟩

def agents (driver : Driver) : Except PlatformError (List AgentHandle) :=
  if driver.initialized then
    .ok ((List.range driver.snapshot.agents.length).map Handle.ofPlace)
  else .error .notInitialized

def objectHandles {kind : ObjectKind} {α : Type} (driver : Driver)
    (objects : AgentRecord → List α) (handle : AgentHandle) :
    Except PlatformError (List (Handle kind)) :=
  match driver.agentRecord handle with
  | .error failure => .error failure
  | .ok owner => .ok ((List.range (objects owner).length).map (.ofPlaces handle.bits.toNat))

def regions (driver : Driver) (handle : AgentHandle) : Except PlatformError (List RegionHandle) :=
  driver.objectHandles AgentRecord.regions handle

def caches (driver : Driver) (handle : AgentHandle) : Except PlatformError (List CacheHandle) :=
  driver.objectHandles AgentRecord.caches handle

def agent (driver : Driver) (handle : AgentHandle) (selector : AgentAttribute) : Answer :=
  match driver.agentRecord handle with
  | .error failure => .error ⟨selector.label, reasonOf failure⟩
  | .ok known =>
      match selector with
      | .name => .ofFact selector.label .text known.name
      | .productName => .ofFact selector.label .text known.productName
      | .device => .ofFact selector.label .device known.deviceClass
      | .nodeId => .ok (.u32 known.nodeId)
      | .computeUnitCount => .ofFact selector.label .u32 known.computeUnits
      | .simdsPerUnit => .ofFact selector.label .u32 known.simdsPerUnit
      | .maxWavesPerUnit => .ofFact selector.label .u32 known.maxWavesPerUnit
      | .chipId => .ofFact selector.label .u32 known.chipId
      | .slotId => .ofFact selector.label .u32 known.locationId
      | .domain => .ofFact selector.label .u32 known.domain

def region (driver : Driver) (handle : RegionHandle) (selector : RegionAttribute) : Answer :=
  match driver.regionRecord handle with
  | .error reason => .error ⟨selector.label, reason⟩
  | .ok known =>
      match selector with
      | .segment => .ok (.segment known.segment)
      | .size => .ofFact selector.label .u64 known.size
      | .hostAccessible => .ok (.bool known.hostAccessible)

def cache (driver : Driver) (handle : CacheHandle) (selector : CacheAttribute) : Answer :=
  match driver.cacheRecord handle with
  | .error reason => .error ⟨selector.label, reason⟩
  | .ok known =>
      match selector with
      | .level => .ofFact selector.label .u8 known.level
      | .size => .ofFact selector.label .u32 known.size
      | .associativity => .ofFact selector.label .u32 known.associativity

def queries (driver : Driver) : Queries where
  system := driver.system
  agents := driver.agents
  regions := driver.regions
  caches := driver.caches
  agent := driver.agent
  region := driver.region
  cache := driver.cache

def shutDown (driver : Driver) : Except PlatformError Unit × Driver :=
  if driver.initialized then (.ok (), { driver with initialized := false })
  else (.error .notInitialized, driver)

end Driver

instance : Platform Driver where
  queries := Driver.queries
  shutDown := Driver.shutDown

end ComputeTopology.Kfd
