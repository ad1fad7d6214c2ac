import Mathlib.Data.List.Nodup
import ComputeTopology.Capture.Reader
import ComputeTopology.Proofs.Lookup

namespace ComputeTopology.Capture

open Json

/-- Every key of an object can be read, and none of these fields is given twice. -/
structure Legible (names : List String) (members : List Member) : Prop where
  readable : ∀ member ∈ members, member.1.isSome = true
  once : ∀ name ∈ names, (members.map Prod.fst).count (some name) ≤ 1

theorem fieldsOfObject?_eq_some_iff {names : List String} {members : List Member} {field : Fields} :
    fieldsOfObject? names members = some field ↔
      Legible names members ∧ field = fun name => members.lookup (some name) := by
  have counted (name : String) :
      members.countP (·.1 == some name) = (members.map Prod.fst).count (some name) := by
    rw [List.count, List.countP_map]
    rfl
  have legible : (members.all (·.1.isSome) = true ∧
      names.all (fun name => members.countP (·.1 == some name) ≤ 1) = true) ↔
        Legible names members := by
    simp only [List.all_eq_true, decide_eq_true_eq, counted]
    exact ⟨fun ⟨readable, once⟩ => ⟨readable, once⟩, fun ⟨readable, once⟩ => ⟨readable, once⟩⟩
  unfold fieldsOfObject?
  split
  · rename_i holds
    simp only [legible.mp holds, true_and, Option.some.injEq, eq_comm]
  · rename_i fails
    have illegible : ¬ Legible names members := fun holds => fails (legible.mpr holds)
    simp only [illegible, false_and, reduceCtorEq]

structure Region.ReadFrom (field : Fields) (region : Region) : Prop where
  segment : optional? none segmentOf? (field "segment") = some region.segment
  size : optional? none wordOf? (field "size") = some region.size
  hostAccessible : optional? none boolOf? (field "host_accessible") = some region.hostAccessible

theorem regionOf?_eq_some_iff {tree : Tree} {region : Region} :
    regionOf? tree = some region ↔
      ∃ field, fields? regionFields tree = some field ∧ region.ReadFrom field := by
  simp only [regionOf?, bind, Option.bind_eq_some_iff, pure, Option.some.injEq]
  constructor
  · rintro ⟨field, found, _, segment, _, size, _, hostAccessible, rfl⟩
    exact ⟨field, found, segment, size, hostAccessible⟩
  · rintro ⟨field, found, segment, size, hostAccessible⟩
    exact ⟨field, found, _, segment, _, size, _, hostAccessible, rfl⟩

structure Cache.ReadFrom (field : Fields) (cache : Cache) : Prop where
  level : optional? none wordOf? (field "level") = some cache.level
  size : optional? none wordOf? (field "size") = some cache.size
  associativity : optional? none wordOf? (field "associativity") = some cache.associativity

theorem cacheOf?_eq_some_iff {tree : Tree} {cache : Cache} :
    cacheOf? tree = some cache ↔
      ∃ field, fields? cacheFields tree = some field ∧ cache.ReadFrom field := by
  simp only [cacheOf?, bind, Option.bind_eq_some_iff, pure, Option.some.injEq]
  constructor
  · rintro ⟨field, found, _, level, _, size, _, associativity, rfl⟩
    exact ⟨field, found, level, size, associativity⟩
  · rintro ⟨field, found, level, size, associativity⟩
    exact ⟨field, found, _, level, _, size, _, associativity, rfl⟩

structure Agent.ReadFrom (field : Fields) (agent : Agent) : Prop where
  nodeId : optional? none wordOf? (field "node_id") = some agent.nodeId
  name : optional? none textOf? (field "name") = some agent.name
  productName : optional? none textOf? (field "product_name") = some agent.productName
  device : optional? none deviceOf? (field "device") = some agent.device
  computeUnits : optional? none wordOf? (field "compute_units") = some agent.computeUnits
  simdsPerUnit : optional? none wordOf? (field "simds_per_cu") = some agent.simdsPerUnit
  maxWavesPerUnit : optional? none wordOf? (field "max_waves_per_cu") = some agent.maxWavesPerUnit
  chipId : optional? none wordOf? (field "chip_id") = some agent.chipId
  locationId : optional? none wordOf? (field "location_id") = some agent.locationId
  domain : optional? none wordOf? (field "domain") = some agent.domain
  regions : list? regionOf? (field "regions") = some agent.regions
  caches : list? cacheOf? (field "caches") = some agent.caches

theorem agentOf?_eq_some_iff {tree : Tree} {agent : Agent} :
    agentOf? tree = some agent ↔
      ∃ field, fields? agentFields tree = some field ∧ agent.ReadFrom field := by
  constructor
  · intro reads
    obtain ⟨field, found, reads⟩ := Option.bind_eq_some_iff.mp reads
    obtain ⟨_, nodeId, reads⟩ := Option.bind_eq_some_iff.mp reads
    obtain ⟨_, name, reads⟩ := Option.bind_eq_some_iff.mp reads
    obtain ⟨_, productName, reads⟩ := Option.bind_eq_some_iff.mp reads
    obtain ⟨_, device, reads⟩ := Option.bind_eq_some_iff.mp reads
    obtain ⟨_, computeUnits, reads⟩ := Option.bind_eq_some_iff.mp reads
    obtain ⟨_, simdsPerUnit, reads⟩ := Option.bind_eq_some_iff.mp reads
    obtain ⟨_, maxWavesPerUnit, reads⟩ := Option.bind_eq_some_iff.mp reads
    obtain ⟨_, chipId, reads⟩ := Option.bind_eq_some_iff.mp reads
    obtain ⟨_, locationId, reads⟩ := Option.bind_eq_some_iff.mp reads
    obtain ⟨_, domain, reads⟩ := Option.bind_eq_some_iff.mp reads
    obtain ⟨_, regions, reads⟩ := Option.bind_eq_some_iff.mp reads
    obtain ⟨_, caches, reads⟩ := Option.bind_eq_some_iff.mp reads
    cases reads
    exact ⟨field, found, nodeId, name, productName, device, computeUnits, simdsPerUnit,
      maxWavesPerUnit, chipId, locationId, domain, regions, caches⟩
  · rintro ⟨field, found, nodeId, name, productName, device, computeUnits, simdsPerUnit,
      maxWavesPerUnit, chipId, locationId, domain, regions, caches⟩
    simp only [agentOf?, found, nodeId, name, productName, device, computeUnits, simdsPerUnit,
      maxWavesPerUnit, chipId, locationId, domain, regions, caches, bind, Option.bind_some, pure]

structure Topology.ReadFrom (field : Fields) (topology : Topology) : Prop where
  versionMajor : optional? (some 1) wordOf? (field "version_major") = some topology.versionMajor
  versionMinor : optional? (some 1) wordOf? (field "version_minor") = some topology.versionMinor
  generationId : optional? none wordOf? (field "generation_id") = some topology.generationId
  platformOem : optional? none wordOf? (field "platform_oem") = some topology.platformOem
  platformId : optional? none wordOf? (field "platform_id") = some topology.platformId
  platformRevision :
    optional? none wordOf? (field "platform_revision") = some topology.platformRevision
  agents : list? agentOf? (field "agents") = some topology.agents

theorem topologyOf?_eq_some_iff {tree : Tree} {topology : Topology} :
    topologyOf? tree = some topology ↔
      ∃ field, fields? topologyFields tree = some field ∧ topology.ReadFrom field := by
  simp only [topologyOf?, bind, Option.bind_eq_some_iff, pure, Option.some.injEq]
  constructor
  · rintro ⟨field, found, _, versionMajor, _, versionMinor, _, generationId, _, platformOem, _,
      platformId, _, platformRevision, _, agents, rfl⟩
    exact ⟨field, found, versionMajor, versionMinor, generationId, platformOem, platformId,
      platformRevision, agents⟩
  · rintro ⟨field, found, versionMajor, versionMinor, generationId, platformOem, platformId,
      platformRevision, agents⟩
    exact ⟨field, found, _, versionMajor, _, versionMinor, _, generationId, _, platformOem, _,
      platformId, _, platformRevision, _, agents, rfl⟩

end ComputeTopology.Capture
