import ComputeTopology.Capture.Basic
import ComputeTopology.Platform.Basic

/-! # Platforms that replay a capture

The platform answers from the records of a capture until it is shut down. An
agent's handle is its place in the capture, and a region's or a cache's handle
holds its agent's place and its own. After the shutdown nothing is answered,
and a second shutdown fails.
-/

namespace ComputeTopology.Capture

open Attribute

structure Replay where
  topology : Topology
  initialized : Bool
deriving DecidableEq

namespace Replay

def start (topology : Topology) : Replay where
  topology
  initialized := true

/-- The record of an agent, or why there is none to ask. -/
def agentRecord (replay : Replay) (place : Nat) : Except Reason Agent :=
  if replay.initialized then
    match replay.topology.agents[place]? with
    | some found => .ok found
    | none => .error .invalidHandle
  else .error .notInitialized

/-- One of an agent's objects, or why there is none to ask. -/
def objectRecord {kind : ObjectKind} {α : Type} (replay : Replay) (objects : Agent → List α)
    (handle : Handle kind) : Except Reason α :=
  match replay.agentRecord handle.agentPlace with
  | .error reason => .error reason
  | .ok owner =>
      match (objects owner)[handle.objectPlace]? with
      | some found => .ok found
      | none => .error .invalidHandle

def objectHandles {kind : ObjectKind} {α : Type} (replay : Replay) (objects : Agent → List α)
    (handle : AgentHandle) : Except PlatformError (List (Handle kind)) :=
  if replay.initialized then
    let place := handle.bits.toNat
    match replay.topology.agents[place]? with
    | some owner => .ok ((List.range (objects owner).length).map (Handle.ofPlaces place))
    | none => .error (.invalidHandle ObjectKind.agent.name handle.bits)
  else .error .notInitialized

def agentHandles (replay : Replay) : Except PlatformError (List AgentHandle) :=
  if replay.initialized then
    .ok ((List.range replay.topology.agents.length).map Handle.ofPlace)
  else .error .notInitialized

def systemFact (topology : Topology) (selector : SystemAttribute) : Answer :=
  match selector with
  | .versionMajor => .ofFact selector.label .u16 topology.versionMajor
  | .versionMinor => .ofFact selector.label .u16 topology.versionMinor
  | .generationId => .ofFact selector.label .u32 topology.generationId
  | .platformOem => .ofFact selector.label .u64 topology.platformOem
  | .platformId => .ofFact selector.label .u32 topology.platformId
  | .platformRevision => .ofFact selector.label .u32 topology.platformRevision
  | .nodeCount => .ofFact selector.label .u32 (Word.ofNat? topology.agents.length)

def agentFact (agent : Agent) (selector : AgentAttribute) : Answer :=
  match selector with
  | .name => .ofFact selector.label .text agent.name
  | .productName => .ofFact selector.label .text agent.productName
  | .device => .ofFact selector.label .device agent.device
  | .nodeId => .ofFact selector.label .u32 agent.nodeId
  | .computeUnitCount => .ofFact selector.label .u32 agent.computeUnits
  | .simdsPerUnit => .ofFact selector.label .u32 agent.simdsPerUnit
  | .maxWavesPerUnit => .ofFact selector.label .u32 agent.maxWavesPerUnit
  | .chipId => .ofFact selector.label .u32 agent.chipId
  | .slotId => .ofFact selector.label .u32 agent.locationId
  | .domain => .ofFact selector.label .u32 agent.domain

def regionFact (region : Region) (selector : RegionAttribute) : Answer :=
  match selector with
  | .segment => .ofFact selector.label .segment region.segment
  | .size => .ofFact selector.label .u64 region.size
  | .hostAccessible => .ofFact selector.label .bool region.hostAccessible

def cacheFact (cache : Cache) (selector : CacheAttribute) : Answer :=
  match selector with
  | .level => .ofFact selector.label .u8 cache.level
  | .size => .ofFact selector.label .u32 cache.size
  | .associativity => .ofFact selector.label .u32 cache.associativity

def queries (replay : Replay) : Queries where
  system selector :=
    if replay.initialized then systemFact replay.topology selector
    else .error ⟨selector.label, .notInitialized⟩
  agents := replay.agentHandles
  regions handle := replay.objectHandles Agent.regions handle
  caches handle := replay.objectHandles Agent.caches handle
  agent handle selector :=
    match replay.agentRecord handle.bits.toNat with
    | .ok found => agentFact found selector
    | .error reason => .error ⟨selector.label, reason⟩
  region handle selector :=
    match replay.objectRecord Agent.regions handle with
    | .ok found => regionFact found selector
    | .error reason => .error ⟨selector.label, reason⟩
  cache handle selector :=
    match replay.objectRecord Agent.caches handle with
    | .ok found => cacheFact found selector
    | .error reason => .error ⟨selector.label, reason⟩

def shutDown (replay : Replay) : Except PlatformError Unit × Replay :=
  if replay.initialized then (.ok (), { replay with initialized := false })
  else (.error .notInitialized, replay)

end Replay

instance : Platform Replay where
  queries := Replay.queries
  shutDown := Replay.shutDown

end ComputeTopology.Capture
