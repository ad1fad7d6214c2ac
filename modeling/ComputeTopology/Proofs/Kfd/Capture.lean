import ComputeTopology.Capture.Replay
import ComputeTopology.Kfd.Driver
import ComputeTopology.Platform.Call

namespace ComputeTopology.Kfd

open Attribute

def RegionRecord.capture (region : RegionRecord) : Capture.Region where
  segment := some region.segment
  size := region.size
  hostAccessible := some region.hostAccessible

def CacheRecord.capture (cache : CacheRecord) : Capture.Cache where
  level := cache.level
  size := cache.size
  associativity := cache.associativity

def AgentRecord.capture (agent : AgentRecord) : Capture.Agent where
  nodeId := some agent.nodeId
  name := agent.name
  productName := agent.productName
  device := agent.deviceClass
  computeUnits := agent.computeUnits
  simdsPerUnit := agent.simdsPerUnit
  maxWavesPerUnit := agent.maxWavesPerUnit
  chipId := agent.chipId
  locationId := agent.locationId
  domain := agent.domain
  regions := agent.regions.map RegionRecord.capture
  caches := agent.caches.map CacheRecord.capture

/-- The topology of a snapshot, with one agent for every record. -/
def Snapshot.capture (snapshot : Snapshot) : Capture.Topology where
  versionMajor := some Driver.interfaceMajor
  versionMinor := some Driver.interfaceMinor
  generationId := snapshot.system.generationId
  platformOem := snapshot.system.platformOem
  platformId := snapshot.system.platformId
  platformRevision := snapshot.system.platformRevision
  agents := snapshot.agents.map AgentRecord.capture

namespace Driver

/-- The platform that replays the capture of a driver's snapshot, in the same state. -/
def replay (driver : Driver) : Capture.Replay where
  topology := driver.snapshot.capture
  initialized := driver.initialized

variable (driver : Driver)

theorem replay_agentRecord (handle : AgentHandle) :
    driver.replay.agentRecord handle.bits.toNat =
      ((driver.agentRecord handle).mapError reasonOf).map AgentRecord.capture := by
  unfold agentRecord Capture.Replay.agentRecord
  simp only [replay, Snapshot.capture, List.getElem?_map]
  cases driver.initialized with
  | false => rfl
  | true => cases driver.snapshot.agents[handle.bits.toNat]? <;> rfl

theorem ofPlace_agentPlace {kind : ObjectKind} (handle : Handle kind) :
    (Handle.ofPlace handle.agentPlace).bits.toNat = handle.agentPlace := by
  apply Handle.ofPlace_bits
  have bounded := handle.bits.toNat_lt
  unfold Handle.agentPlace UInt32.size
  omega

theorem replay_objectRecord {kind : ObjectKind} {α β : Type} (objects : AgentRecord → List α)
    (capture : α → β) {captured : Capture.Agent → List β}
    (same : ∀ agent : AgentRecord, captured agent.capture = (objects agent).map capture)
    (handle : Handle kind) :
    driver.replay.objectRecord captured handle =
      (driver.objectRecord objects handle).map capture := by
  unfold Capture.Replay.objectRecord objectRecord
  rw [← ofPlace_agentPlace handle, replay_agentRecord, ofPlace_agentPlace]
  cases driver.agentRecord (.ofPlace handle.agentPlace) with
  | error failure => rfl
  | ok owner =>
      simp only [mapError_ok, Except.map, same, List.getElem?_map]
      cases (objects owner)[handle.objectPlace]? <;> rfl

theorem replay_regionRecord (handle : RegionHandle) :
    driver.replay.objectRecord Capture.Agent.regions handle =
      (driver.regionRecord handle).map RegionRecord.capture :=
  driver.replay_objectRecord AgentRecord.regions RegionRecord.capture (fun _ => rfl) handle

theorem replay_cacheRecord (handle : CacheHandle) :
    driver.replay.objectRecord Capture.Agent.caches handle =
      (driver.cacheRecord handle).map CacheRecord.capture :=
  driver.replay_objectRecord AgentRecord.caches CacheRecord.capture (fun _ => rfl) handle

theorem replay_objectHandles {kind : ObjectKind} {α β : Type} (objects : AgentRecord → List α)
    {captured : Capture.Agent → List β}
    (same : ∀ agent : AgentRecord, (captured agent.capture).length = (objects agent).length)
    (handle : AgentHandle) :
    driver.replay.objectHandles captured handle =
      (driver.objectHandles objects handle : Except PlatformError (List (Handle kind))) := by
  simp only [Capture.Replay.objectHandles, objectHandles, agentRecord, replay, Snapshot.capture,
    List.getElem?_map]
  cases driver.initialized with
  | false => rfl
  | true =>
      cases driver.snapshot.agents[handle.bits.toNat]? with
      | none => rfl
      | some owner => simp only [Option.map_some, if_true, same]

theorem replay_regions (handle : AgentHandle) :
    driver.replay.queries.regions handle = driver.regions handle :=
  driver.replay_objectHandles AgentRecord.regions (fun _ => List.length_map _) handle

theorem replay_caches (handle : AgentHandle) :
    driver.replay.queries.caches handle = driver.caches handle :=
  driver.replay_objectHandles AgentRecord.caches (fun _ => List.length_map _) handle

theorem replay_region (handle : RegionHandle) (selector : RegionAttribute) :
    driver.replay.queries.region handle selector = driver.region handle selector := by
  simp only [Capture.Replay.queries, replay_regionRecord, region]
  cases driver.regionRecord handle with
  | error reason => rfl
  | ok known => cases selector <;> rfl

theorem replay_cache (handle : CacheHandle) (selector : CacheAttribute) :
    driver.replay.queries.cache handle selector = driver.cache handle selector := by
  simp only [Capture.Replay.queries, replay_cacheRecord, cache]
  cases driver.cacheRecord handle with
  | error reason => rfl
  | ok known => cases selector <;> rfl

theorem replay_system {selector : SystemAttribute} (other : selector ≠ .nodeCount) :
    driver.replay.queries.system selector = driver.system selector := by
  obtain ⟨snapshot, initialized⟩ := driver
  cases initialized with
  | false => rfl
  | true =>
      cases selector with
      | nodeCount => contradiction
      | _ => rfl

theorem replay_agents : driver.replay.queries.agents = driver.agents := by
  simp only [Capture.Replay.queries, Capture.Replay.agentHandles, agents, replay, Snapshot.capture,
    List.length_map]

theorem replay_agent (handle : AgentHandle) (selector : AgentAttribute) :
    driver.replay.queries.agent handle selector = driver.agent handle selector := by
  simp only [Capture.Replay.queries, replay_agentRecord, agent]
  cases driver.agentRecord handle with
  | error failure => rfl
  | ok known => cases selector <;> rfl

/-- All but the facts about the system are the same queries. -/
theorem replay_queries :
    driver.replay.queries = { driver.queries with system := driver.replay.queries.system } := by
  have agents := driver.replay_agents
  have regions := funext driver.replay_regions
  have caches := funext driver.replay_caches
  have agent := funext (fun handle => funext (driver.replay_agent handle))
  have region := funext (fun handle => funext (driver.replay_region handle))
  have cache := funext (fun handle => funext (driver.replay_cache handle))
  simp only [queries, ← agents, ← regions, ← caches, ← agent, ← region, ← cache]

theorem replay_reply? {made : Call} (other : made ≠ .system .nodeCount) :
    driver.replay.queries.reply? made = driver.queries.reply? made := by
  cases made with
  | system selector =>
      have known : selector ≠ .nodeCount := fun same => other (congrArg Call.system same)
      exact congrArg (some ∘ Call.Reply.answer) (driver.replay_system known)
  | _ =>
      rw [replay_queries]
      rfl

theorem replay_shutDown :
    driver.replay.shutDown = (driver.shutDown.1, driver.shutDown.2.replay) := by
  obtain ⟨snapshot, initialized⟩ := driver
  cases initialized <;> rfl

/-- A call gets the same reply from both and leaves them alike. -/
theorem replay_call {made : Call} (other : made ≠ .system .nodeCount) :
    Platform.call driver.replay made =
      ((Platform.call driver made).1, (Platform.call driver made).2.replay) := by
  have same := driver.replay_reply? other
  have stopped := driver.replay_shutDown
  simp only [Platform.call, Platform.queries, Platform.shutDown, same, stopped]
  cases driver.queries.reply? made <;> rfl

theorem replay_calls {made : List Call} (others : ∀ call ∈ made, call ≠ .system .nodeCount) :
    Platform.calls driver.replay made =
      ((Platform.calls driver made).1, (Platform.calls driver made).2.replay) := by
  induction made generalizing driver with
  | nil => rfl
  | cons first rest ih =>
      obtain ⟨other, others⟩ := List.forall_mem_cons.mp others
      simp only [Platform.calls, replay_call driver other, ih _ others]

end Driver

/-- Whatever is called, except for the number of nodes, a platform over a snapshot
    and one that replays the capture of the snapshot reply alike, call by call. -/
theorem capture_replies_alike (snapshot : Snapshot) {made : List Call}
    (others : ∀ call ∈ made, call ≠ .system .nodeCount) :
    (Platform.calls (Capture.Replay.start snapshot.capture) made).1 =
      (Platform.calls ({ snapshot, initialized := true } : Driver) made).1 :=
  congrArg Prod.fst (Driver.replay_calls { snapshot, initialized := true } others)

/-- A node with a CPU and a GPU that share their number. -/
def Snapshot.shared : Snapshot where
  system := ⟨some 3, none, none, none, 1⟩
  agents := [
    { AgentRecord.ofNode 4 with
      deviceClass := some .cpu
      regions := [⟨.global, some 4096, true⟩] },
    { AgentRecord.ofNode 4 with
      deviceClass := some .gpu
      caches := [⟨some 2, none, some 16, some 9⟩] }]

theorem capture_replies_alike_shared :
    let made : List Call := [.caches ⟨1⟩, .cache ⟨4294967296⟩ .size, .region ⟨4294967296⟩ .segment,
      .regions ⟨9⟩, .shutDown, .agent ⟨9⟩ .device, .regions ⟨9⟩, .shutDown]
    (∀ call ∈ made, call ≠ .system .nodeCount) ∧
      (Platform.calls (Capture.Replay.start Snapshot.shared.capture) made).1 =
        [.caches (.ok [⟨4294967296⟩]), .answer (.error ⟨"size", .notReported⟩),
          .answer (.error ⟨"segment", .invalidHandle⟩),
          .regions (.error (.invalidHandle "agent" 9)), .shutDown (.ok ()),
          .answer (.error ⟨"device", .notInitialized⟩), .regions (.error .notInitialized),
          .shutDown (.error .notInitialized)] := by
  intro made
  have others : ∀ call ∈ made, call ≠ .system .nodeCount := by decide
  exact ⟨others, (capture_replies_alike Snapshot.shared others).trans (by rfl)⟩

end ComputeTopology.Kfd
