import ComputeTopology.Proofs.Capture.Records
import ComputeTopology.Proofs.Survey.Outcome

namespace ComputeTopology.Capture

open Attribute

def Region.described? (region : Region) : Option MemoryRegion :=
  region.segment.map fun segment => {
    segment
    sizeBytes := region.size
    hostAccessible := region.hostAccessible
    globalIndex := none }

/-- Why the region at a place of the agent at a place cannot be classified. -/
def Region.unclassified? (region : Region) (place index : Nat) : Option Failure :=
  if region.segment.isSome then none
  else
    some (.classification ("region " ++ Text.Numeral.prefixedHex (place * UInt32.size + index))
      ⟨"segment", .notReported⟩)

theorem Region.unclassified?_eq_none {region : Region} (classified : region.segment.isSome = true)
    (place index : Nat) : region.unclassified? place index = none := by
  rw [Region.unclassified?, if_pos classified]

def Cache.described (cache : Cache) : ComputeTopology.Cache where
  level := cache.level
  sizeBytes := cache.size
  associativity := cache.associativity

namespace Agent

def kind (agent : Agent) : DeviceClass → AgentKind
  | .cpu => .cpu agent.computeUnits
  | .gpu =>
      .gpu (.derive agent.computeUnits agent.simdsPerUnit agent.maxWavesPerUnit agent.chipId
        agent.locationId agent.domain)
  | .other => .other

def described? (agent : Agent) : Option ComputeTopology.Agent :=
  agent.device.map fun device => {
    nodeId := agent.nodeId
    name := ComputeTopology.Agent.displayName agent.productName agent.name
    kind := agent.kind device
    regions := Survey.numberFrom 0 (agent.regions.filterMap Region.described?)
    caches := agent.caches.map Cache.described }

/-- The agent with the objects that its handles lead to. -/
def reached (agent : Agent) : Agent :=
  { agent with regions := Replay.reached agent.regions, caches := Replay.reached agent.caches }

/-- All regions of the agent have a segment, whether it has a class or not. -/
def Segmented (agent : Agent) : Prop :=
  ∀ region ∈ agent.regions, region.segment.isSome

/-- The agent has a class and all its regions have a segment. -/
def Classified (agent : Agent) : Prop :=
  agent.device.isSome ∧ ∀ region ∈ agent.regions, region.segment.isSome

/-- The objects at an agent's place that cannot be classified, in order. Below
    an agent without a class none is named. -/
def unclassified (agent : Agent) (place : Nat) : List Failure :=
  match agent.device with
  | none =>
      [.classification ("agent " ++ Text.Numeral.prefixedHex place) ⟨"device", .notReported⟩]
  | some _ => agent.regions.zipIdx.filterMap (fun entry => entry.1.unclassified? place entry.2)

end Agent

namespace Topology

/-- Few enough objects for every one to have a handle of its own. -/
def Addressable (topology : Topology) : Prop :=
  topology.agents.length < UInt32.size ∧
    ∀ agent ∈ topology.agents, agent.regions.length < UInt32.size ∧ agent.caches.length < UInt32.size

def Classified (topology : Topology) : Prop :=
  ∀ agent ∈ topology.agents, agent.Classified

def inventory (topology : Topology) : Inventory where
  agents := topology.agents.filterMap Agent.described?

/-- The objects that cannot be classified, in order. -/
def unclassified (topology : Topology) : List Failure :=
  topology.agents.zipIdx.flatMap fun (agent, place) => agent.unclassified place

end Topology

namespace Replay

variable {topology : Topology} {agent : Agent} {place index : Nat}

theorem segment_start {region : Region} (few : place < UInt32.size)
    (found : topology.agents[place]? = some agent)
    (listed : agent.regions[index % UInt32.size]? = some region) :
    (start topology).queries.regionAs Segment (.ofPlaces place index) .segment =
      match region.segment with
      | some segment => .ok segment
      | none => .error ⟨"segment", .notReported⟩ := by
  rw [Queries.regionAs, region_start few found listed, regionFact,
    Answer.read_ofFact .segment (fun _ => rfl)]
  cases region.segment <;> rfl

theorem regionFound_start {region : Region} (few : place < UInt32.size)
    (found : topology.agents[place]? = some agent)
    (listed : agent.regions[index % UInt32.size]? = some region) :
    Survey.regionFound (start topology).queries (.ofPlaces place index) = region.described? := by
  rw [Survey.regionFound, segment_start few found listed]
  simp only [Queries.regionAs, region_start few found listed, regionFact,
    Answer.toOption_read_ofFact .u64 (fun _ => rfl), Answer.toOption_read_ofFact .bool (fun _ => rfl),
    Region.described?]
  cases region.segment <;> rfl

theorem regionFault_start {region : Region} (few : place < UInt32.size)
    (found : topology.agents[place]? = some agent)
    (listed : agent.regions[index % UInt32.size]? = some region) :
    Survey.regionFault (start topology).queries (.ofPlaces place index) =
      region.unclassified? place (index % UInt32.size) := by
  have label : (Handle.ofPlaces place index : RegionHandle).label =
      "region " ++ Text.Numeral.prefixedHex (place * UInt32.size + index % UInt32.size) := by
    rw [Handle.label, Handle.ofPlaces_bits few]
    rfl
  rw [Survey.regionFault, segment_start few found listed, label, Region.unclassified?]
  cases region.segment <;> rfl

theorem cache_described {cache : Cache} (few : place < UInt32.size)
    (found : topology.agents[place]? = some agent)
    (listed : agent.caches[index % UInt32.size]? = some cache) :
    Survey.cache (start topology).queries (.ofPlaces place index) = cache.described := by
  simp only [Survey.cache, Queries.cacheAs, cache_start few found listed, cacheFact,
    Answer.toOption_read_ofFact .u8 (fun _ => rfl), Answer.toOption_read_ofFact .u32 (fun _ => rfl),
    Cache.described]

theorem device_start (few : place < UInt32.size) (found : topology.agents[place]? = some agent) :
    (start topology).queries.agentAs DeviceClass (.ofPlace place) .device =
      match agent.device with
      | some device => .ok device
      | none => .error ⟨"device", .notReported⟩ := by
  rw [Queries.agentAs, agent_start few found, agentFact, Answer.read_ofFact .device (fun _ => rfl)]
  cases agent.device <;> rfl

theorem name_start (few : place < UInt32.size) (found : topology.agents[place]? = some agent) :
    Survey.name (start topology).queries (.ofPlace place) =
      ComputeTopology.Agent.displayName agent.productName agent.name := by
  simp only [Survey.name, Queries.agentAs, agent_start few found, agentFact,
    Answer.toOption_read_ofFact .text (fun _ => rfl)]

theorem kind_start (few : place < UInt32.size) (found : topology.agents[place]? = some agent)
    (device : DeviceClass) :
    Survey.kind (start topology).queries (.ofPlace place) device = agent.kind device := by
  cases device <;>
    simp only [Survey.kind, Survey.gpuFigures, Queries.agentAs, agent_start few found, agentFact,
      Answer.toOption_read_ofFact .u32 (fun _ => rfl), Agent.kind]

theorem regions_start (few : place < UInt32.size) (found : topology.agents[place]? = some agent) :
    (start topology).queries.regions (.ofPlace place) =
      .ok (agent.regions.zipIdx.map (fun entry => .ofPlaces place entry.2)) :=
  objectHandles_start Agent.regions few found

theorem caches_start (few : place < UInt32.size) (found : topology.agents[place]? = some agent) :
    (start topology).queries.caches (.ofPlace place) =
      .ok (agent.caches.zipIdx.map (fun entry => .ofPlaces place entry.2)) :=
  objectHandles_start Agent.caches few found

theorem regionsFound_start (few : place < UInt32.size)
    (found : topology.agents[place]? = some agent) :
    (agent.regions.zipIdx.map (fun entry => .ofPlaces place entry.2)).filterMap
        (Survey.regionFound (start topology).queries) =
      agent.reached.regions.filterMap Region.described? :=
  filterMap_reached fun _ _ listed => regionFound_start few found listed

theorem cachesFound_start (few : place < UInt32.size)
    (found : topology.agents[place]? = some agent) :
    (agent.caches.zipIdx.map (fun entry => .ofPlaces place entry.2)).map
        (Survey.cache (start topology).queries) =
      agent.reached.caches.map Cache.described := by
  simp only [← List.filterMap_eq_map (f := Survey.cache _), ← List.filterMap_eq_map (f := Cache.described)]
  apply filterMap_reached
  intro cache index listed
  exact congrArg some (cache_described few found listed)

/-- The places in the labels do not matter where no region lacks a segment. -/
theorem regionFaults_start (few : place < UInt32.size)
    (clear : agent.regions.length < UInt32.size ∨ agent.Segmented)
    (found : topology.agents[place]? = some agent) :
    (agent.regions.zipIdx.map (fun entry => .ofPlaces place entry.2)).filterMap
        (Survey.regionFault (start topology).queries) =
      agent.regions.zipIdx.filterMap (fun entry => entry.1.unclassified? place entry.2) := by
  rw [List.filterMap_map]
  apply List.filterMap_congr
  rintro ⟨region, index⟩ member
  have listed := List.mem_zipIdx_iff_getElem?.mp member
  obtain ⟨below, _⟩ := List.getElem?_eq_some_iff.mp listed
  rcases clear with small | segmented
  · have same : index % UInt32.size = index := Nat.mod_eq_of_lt (Nat.lt_trans below small)
    rw [← same] at listed
    exact (regionFault_start few found listed).trans (by rw [same])
  · have within : index % UInt32.size < agent.regions.length :=
      Nat.lt_of_le_of_lt (Nat.mod_le _ _) below
    have reachedSegment := segmented _ (List.getElem_mem within)
    have ownSegment := segmented region (List.mem_of_getElem? listed)
    rw [Region.unclassified?_eq_none ownSegment, ← Region.unclassified?_eq_none reachedSegment place]
    exact regionFault_start few found (List.getElem?_eq_getElem within)

theorem agentFound_start (few : place < UInt32.size)
    (found : topology.agents[place]? = some agent) :
    Survey.agentFound (start topology).queries (.ofPlace place) = agent.reached.described? := by
  have class_reached : agent.reached.device = agent.device := rfl
  rw [Survey.agentFound, device_start few found, Agent.described?, class_reached]
  cases agent.device with
  | none => rfl
  | some device =>
      apply congrArg some
      simp only [Survey.agentOf, name_start few found, kind_start few found,
        regions_start few found, caches_start few found, Survey.listed_ok,
        regionsFound_start few found, cachesFound_start few found, Queries.agentAs,
        agent_start few found, agentFact, Answer.toOption_read_ofFact .u32 (fun _ => rfl)]
      rfl

theorem agentFaults_start (few : place < UInt32.size)
    (clear : agent.regions.length < UInt32.size ∨ agent.Segmented)
    (found : topology.agents[place]? = some agent) :
    Survey.agentFaults (start topology).queries (.ofPlace place) = agent.unclassified place := by
  have label : (Handle.ofPlace place).label = "agent " ++ Text.Numeral.prefixedHex place := by
    rw [Handle.label, Handle.ofPlace_bits few]
    rfl
  rw [Survey.agentFaults, device_start few found, Agent.unclassified, label]
  cases agent.device with
  | none => rfl
  | some device =>
      simp only [Survey.objectFaults, regions_start few found, caches_start few found,
        regionFaults_start few clear found, List.append_nil]

theorem found_reached (few : topology.agents.length < UInt32.size) :
    Survey.found (start topology).queries =
      ⟨topology.agents.filterMap (fun agent => agent.reached.described?)⟩ := by
  rw [Survey.found, agents_start, Survey.listed_ok]
  apply congrArg Inventory.mk
  apply filterMap_places
  intro agent place below found
  exact agentFound_start (Nat.lt_trans below few) found

theorem found_start (few : topology.Addressable) :
    Survey.found (start topology).queries = topology.inventory := by
  rw [found_reached few.1, Topology.inventory]
  apply congrArg Inventory.mk
  apply List.filterMap_congr
  intro agent member
  obtain ⟨small, slight⟩ := few.2 agent member
  rw [Agent.reached, reached_of_small small, reached_of_small slight]

theorem faults_start (few : topology.agents.length < UInt32.size)
    (clear : ∀ agent ∈ topology.agents, agent.regions.length < UInt32.size ∨ agent.Segmented) :
    Survey.faults (start topology).queries = topology.unclassified := by
  simp only [Survey.faults, agents_start, List.flatMap_map, Topology.unclassified]
  apply List.flatMap_congr
  rintro ⟨agent, place⟩ member
  have found := List.mem_zipIdx_iff_getElem?.mp member
  obtain ⟨below, _⟩ := List.getElem?_eq_some_iff.mp found
  exact agentFaults_start (Nat.lt_trans below few) (clear agent (List.mem_of_getElem? found)) found

theorem systemFacts_start {major minor : UInt16} (knownMajor : topology.versionMajor = some major)
    (knownMinor : topology.versionMinor = some minor) :
    Survey.systemFacts (start topology).queries = .ok {
      version := { major, minor }
      generationId := topology.generationId
      platformOem := topology.platformOem
      platformId := topology.platformId
      platformRevision := topology.platformRevision
      nodeCount := Word.ofNat? topology.agents.length } := by
  have answers (selector : SystemAttribute) :
      (start topology).queries.system selector = systemFact topology selector := rfl
  simp only [Survey.systemFacts, Survey.versionPart, Queries.systemAs, answers, systemFact,
    knownMajor, knownMinor, Answer.read_ofFact .u16 (fun _ => rfl),
    Answer.toOption_read_ofFact .u32 (fun _ => rfl), Answer.toOption_read_ofFact .u64 (fun _ => rfl),
    mapError_ok]
  rfl

end Replay

theorem Agent.isClassification_of_mem_unclassified {agent : Agent} {place : Nat} {failure : Failure}
    (named : failure ∈ agent.unclassified place) : failure.isClassification = true := by
  unfold unclassified at named
  split at named
  · rw [List.mem_singleton.mp named]
    rfl
  · obtain ⟨⟨region, index⟩, _, named⟩ := List.mem_filterMap.mp named
    unfold Region.unclassified? at named
    split at named
    · contradiction
    · cases named
      rfl

theorem Topology.isClassification_of_mem_unclassified {topology : Topology} {failure : Failure}
    (named : failure ∈ topology.unclassified) : failure.isClassification = true := by
  obtain ⟨⟨agent, place⟩, _, named⟩ := List.mem_flatMap.mp named
  exact agent.isClassification_of_mem_unclassified named

theorem forall_mem_zipIdx_iff {α : Type} {items : List α} (holds : α → Prop) :
    (∀ entry ∈ items.zipIdx, holds entry.1) ↔ ∀ item ∈ items, holds item := by
  conv_rhs => rw [← List.zipIdx_map_fst 0 items, List.forall_mem_map]

theorem Agent.unclassified_eq_nil_iff {agent : Agent} {place : Nat} :
    agent.unclassified place = [] ↔ agent.Classified := by
  have classified (region : Region) (index : Nat) :
      region.unclassified? place index = none ↔ region.segment.isSome := by
    simp [Region.unclassified?, Option.isSome_iff_ne_none]
  unfold unclassified Classified
  cases agent.device with
  | none => simp
  | some device =>
      simp only [List.filterMap_eq_nil_iff, classified, Option.isSome_some, true_and]
      exact forall_mem_zipIdx_iff (fun region : Region => region.segment.isSome = true)

theorem Topology.unclassified_eq_nil_iff {topology : Topology} :
    topology.unclassified = [] ↔ topology.Classified := by
  simp only [unclassified, List.flatMap_eq_nil_iff, Agent.unclassified_eq_nil_iff]
  exact forall_mem_zipIdx_iff Agent.Classified

theorem Topology.settle_of_classified {α : Type} {topology : Topology} {policy : Survey.Policy}
    (classified : policy = .failFast → topology.Classified) (result : α) :
    policy.settle topology.unclassified result = .ok result := by
  rw [Survey.Policy.settle_eq_ok_iff]
  refine ⟨rfl, fun failure named => ?_⟩
  cases policy with
  | failFast =>
      rw [unclassified_eq_nil_iff.mpr (classified rfl)] at named
      contradiction
  | skipObject => exact isClassification_of_mem_unclassified named

theorem Topology.settle_of_not_classified {α : Type} {topology : Topology}
    (unclear : ¬topology.Classified) (result : α) :
    ∃ object cause, Survey.Policy.failFast.settle topology.unclassified result =
      .error (.classification object cause) := by
  obtain ⟨failure, rest, named⟩ := List.exists_cons_of_ne_nil (mt unclassified_eq_nil_iff.mp unclear)
  have member : failure ∈ topology.unclassified := named ▸ List.mem_cons_self
  have classification := isClassification_of_mem_unclassified member
  rw [Survey.Policy.settle_failFast, named]
  cases failure with
  | classification object cause => exact ⟨object, cause, rfl⟩
  | _ => contradiction

namespace Replay

/-- A survey of a started replay comes to the inventory of its capture. Leniently
    it always does, and strictly unless an agent has no class or a region no
    segment, when it fails naming the first such object. -/
theorem inventory_start (topology : Topology) (few : topology.Addressable) :
    Survey.inventory (start topology).queries .skipObject = .ok topology.inventory ∧
      Survey.inventory (start topology).queries .failFast =
        (match topology.unclassified.head? with
        | some failure => .error failure
        | none => .ok topology.inventory) ∧
      (topology.unclassified = [] ↔ topology.Classified) := by
  have faults := faults_start few.1 (fun agent member => .inl (few.2 agent member).1)
  rw [Survey.inventory_eq, Survey.inventory_eq, faults, found_start few]
  refine ⟨?_, Survey.Policy.settle_failFast _ _, Topology.unclassified_eq_nil_iff⟩
  rw [Survey.Policy.settle_eq_ok_iff]
  exact ⟨rfl, fun _ => Topology.isClassification_of_mem_unclassified⟩

/-- A GPU whose second region has no segment, and an agent without a class. -/
def incomplete : Topology where
  versionMajor := some 1
  versionMinor := some 1
  generationId := none
  platformOem := none
  platformId := none
  platformRevision := none
  agents := [
    { nodeId := some 1, name := some "gfx90a", productName := none, device := some .gpu
      computeUnits := some 60, simdsPerUnit := some 4, maxWavesPerUnit := some 40
      chipId := none, locationId := none, domain := none
      regions := [⟨some .global, some 0, none⟩, ⟨none, some 4096, none⟩,
        ⟨some .global, some 17179869184, some true⟩]
      caches := [⟨some 2, some 4194304, none⟩] },
    { nodeId := some 2, name := none, productName := none, device := none
      computeUnits := none, simdsPerUnit := none, maxWavesPerUnit := none
      chipId := none, locationId := none, domain := none
      regions := [⟨some .global, none, none⟩], caches := [] }]

theorem inventory_start_incomplete :
    incomplete.Addressable ∧
      Survey.inventory (start incomplete).queries .skipObject = .ok ⟨[
        { nodeId := some 1
          name := "gfx90a"
          kind := .gpu ⟨some 60, some 240, some 10, none, none, none⟩
          regions := [⟨.global, some 0, none, some 0⟩,
            ⟨.global, some 17179869184, some true, some 1⟩]
          caches := [⟨some 2, some 4194304, none⟩] }]⟩ ∧
      Survey.inventory (start incomplete).queries .failFast =
        .error (.classification "region 0x1" ⟨"segment", .notReported⟩) := by
  have few : incomplete.Addressable := by
    simp [Topology.Addressable, incomplete, UInt32.size]
  obtain ⟨lenient, strict, _⟩ := inventory_start incomplete few
  refine ⟨few, lenient.trans ?_, strict.trans ?_⟩
  · decide
  · decide

end Replay

end ComputeTopology.Capture
