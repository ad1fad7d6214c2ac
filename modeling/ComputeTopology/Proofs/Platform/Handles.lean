import Mathlib.Data.List.Forall2
import Mathlib.Data.List.Nodup
import ComputeTopology.Proofs.Capture.Inventory
import ComputeTopology.Proofs.Kfd.Capture

namespace ComputeTopology

open Attribute

namespace Handle

theorem ofPlace_toNat (handle : AgentHandle) : ofPlace handle.bits.toNat = handle :=
  congrArg Handle.mk (UInt64.ofNat_toNat)

theorem ofPlaces_places {kind : ObjectKind} (handle : Handle kind) :
    ofPlaces handle.agentPlace handle.objectPlace = handle := by
  have whole : handle.agentPlace * UInt32.size + handle.objectPlace % UInt32.size =
      handle.bits.toNat := by
    rw [agentPlace, objectPlace, Nat.mod_mod, Nat.mul_comm, Nat.div_add_mod]
  rw [ofPlaces, whole]
  exact congrArg Handle.mk UInt64.ofNat_toNat

end Handle

section Correspondence

variable {kind : ObjectKind} {σ α : Type}

/-- The platform knows these handles, which differ from one another, and no others. -/
structure KnowsExactly (ask : Handle kind → σ → Answer) (label : σ → String)
    (handles : List (Handle kind)) : Prop where
  distinct : handles.Nodup
  invalid_iff : ∀ handle selector,
    ask handle selector = .error ⟨label selector, .invalidHandle⟩ ↔ handle ∉ handles

/-- The handles answer one after another from the objects, whatever is asked. -/
def AnswersFrom (ask : Handle kind → σ → Answer) (fact : α → σ → Answer) :
    List (Handle kind) → List α → Prop :=
  List.Forall₂ (fun handle object => ∀ selector, ask handle selector = fact object selector)

end Correspondence

/-- The platform lists these handles, of the regions and caches agent by agent, and
    they stand for the agents of a topology and the regions and caches of each. -/
structure Queries.Serves (platform : Queries) (topology : Capture.Topology)
    (agents : List AgentHandle) (regions : List (List RegionHandle))
    (caches : List (List CacheHandle)) : Prop where
  agentsListed : platform.agents = .ok agents
  regionsListed : List.Forall₂ (fun agent own => platform.regions agent = .ok own) agents regions
  cachesListed : List.Forall₂ (fun agent own => platform.caches agent = .ok own) agents caches
  agentsKnown : KnowsExactly platform.agent AgentAttribute.label agents
  regionsKnown : KnowsExactly platform.region RegionAttribute.label regions.flatten
  cachesKnown : KnowsExactly platform.cache CacheAttribute.label caches.flatten
  agentAnswers : AnswersFrom platform.agent Capture.Replay.agentFact agents topology.agents
  regionAnswers : List.Forall₂ (AnswersFrom platform.region Capture.Replay.regionFact) regions
    (topology.agents.map Capture.Agent.regions)
  cacheAnswers : List.Forall₂ (AnswersFrom platform.cache Capture.Replay.cacheFact) caches
    (topology.agents.map Capture.Agent.caches)

theorem pairwise_zipIdx {α : Type} (items : List α) :
    items.zipIdx.Pairwise (fun first second => first.2 < second.2) := by
  have ascending := List.pairwise_lt_range' (s := 0) (n := items.length)
  rw [← List.zipIdx_map_snd 0 items, List.pairwise_map] at ascending
  exact ascending

theorem forall₂_zipIdx {α β : Type} {related : β → α → Prop} {issue : α × Nat → β} {items : List α}
    (agree : ∀ entry ∈ items.zipIdx, related (issue entry) entry.1) :
    List.Forall₂ related (items.zipIdx.map issue) items := by
  have both : List.Forall₂ related (items.zipIdx.map issue) (items.zipIdx.map Prod.fst) :=
    List.forall₂_map_left_iff.mpr (List.forall₂_map_right_iff.mpr (List.forall₂_same.mpr agree))
  rwa [List.zipIdx_map_fst] at both

namespace Capture.Replay

variable {topology : Topology} {kind : ObjectKind} {σ α : Type} {objects : Agent → List α}

theorem ofFact_ne_invalidHandle {label : String} {wrap : α → Value} (fact : Option α) :
    Answer.ofFact label wrap fact ≠ .error ⟨label, .invalidHandle⟩ := by
  cases fact <;> simp [Answer.ofFact]

theorem agentFact_ne_invalidHandle (agent : Agent) (selector : AgentAttribute) :
    agentFact agent selector ≠ .error ⟨selector.label, .invalidHandle⟩ := by
  cases selector <;> exact ofFact_ne_invalidHandle _

theorem regionFact_ne_invalidHandle (region : Region) (selector : RegionAttribute) :
    regionFact region selector ≠ .error ⟨selector.label, .invalidHandle⟩ := by
  cases selector <;> exact ofFact_ne_invalidHandle _

theorem cacheFact_ne_invalidHandle (cache : Cache) (selector : CacheAttribute) :
    cacheFact cache selector ≠ .error ⟨selector.label, .invalidHandle⟩ := by
  cases selector <;> exact ofFact_ne_invalidHandle _

def answered (fact : α → σ → Answer) (label : σ → String) (record : Except Reason α)
    (selector : σ) : Answer :=
  match record with
  | .ok found => fact found selector
  | .error reason => .error ⟨label selector, reason⟩

def agentsOf (topology : Topology) : List AgentHandle :=
  topology.agents.zipIdx.map (fun entry => .ofPlace entry.2)

/-- The handles of all objects of a kind, agent by agent. -/
def objectsOf (kind : ObjectKind) (topology : Topology) (objects : Agent → List α) :
    List (List (Handle kind)) :=
  topology.agents.zipIdx.map fun entry =>
    (objects entry.1).zipIdx.map (fun object => .ofPlaces entry.2 object.2)

/-- Few enough agents and objects for their places to fit. -/
structure Fits (topology : Topology) (objects : Agent → List α) : Prop where
  agents : topology.agents.length < UInt32.size
  own : ∀ agent ∈ topology.agents, (objects agent).length < UInt32.size

theorem place_lt {items : List α} (few : items.length < UInt32.size) {entry : α × Nat}
    (member : entry ∈ items.zipIdx) : entry.2 < UInt32.size :=
  Nat.lt_trans (List.getElem?_eq_some_iff.mp (List.mem_zipIdx_iff_getElem?.mp member)).1 few

theorem Fits.own_zipIdx (fits : Fits topology objects) {entry : Agent × Nat}
    (member : entry ∈ topology.agents.zipIdx) : (objects entry.1).length < UInt32.size :=
  fits.own entry.1 (List.mem_of_getElem? (List.mem_zipIdx_iff_getElem?.mp member))

theorem mem_agentsOf_iff (few : topology.agents.length < UInt32.size) {handle : AgentHandle} :
    handle ∈ agentsOf topology ↔ ∃ agent, topology.agents[handle.bits.toNat]? = some agent := by
  simp only [agentsOf, List.mem_map]
  constructor
  · rintro ⟨entry, member, rfl⟩
    rw [Handle.ofPlace_bits (place_lt few member)]
    exact ⟨entry.1, List.mem_zipIdx_iff_getElem?.mp member⟩
  · rintro ⟨agent, found⟩
    exact ⟨(agent, handle.bits.toNat), List.mem_zipIdx_iff_getElem?.mpr found,
      handle.ofPlace_toNat⟩

theorem mem_objectsOf_iff (fits : Fits topology objects) {handle : Handle kind} :
    handle ∈ (objectsOf kind topology objects).flatten ↔
      ∃ agent object, topology.agents[handle.agentPlace]? = some agent ∧
        (objects agent)[handle.objectPlace]? = some object := by
  simp only [objectsOf, List.mem_flatten, List.mem_map]
  constructor
  · rintro ⟨_, ⟨entry, member, rfl⟩, listed⟩
    obtain ⟨object, own, rfl⟩ := List.mem_map.mp listed
    have below := place_lt fits.agents member
    rw [Handle.agentPlace_ofPlaces below, Handle.objectPlace_ofPlaces below,
      Nat.mod_eq_of_lt (place_lt (fits.own_zipIdx member) own)]
    exact ⟨entry.1, object.1, List.mem_zipIdx_iff_getElem?.mp member,
      List.mem_zipIdx_iff_getElem?.mp own⟩
  · rintro ⟨agent, object, found, listed⟩
    refine ⟨_, ⟨(agent, handle.agentPlace), List.mem_zipIdx_iff_getElem?.mpr found, rfl⟩, ?_⟩
    exact List.mem_map.mpr ⟨(object, handle.objectPlace), List.mem_zipIdx_iff_getElem?.mpr listed,
      handle.ofPlaces_places⟩

theorem nodup_agentsOf (few : topology.agents.length < UInt32.size) :
    (agentsOf topology).Nodup := by
  refine List.pairwise_map.mpr ((pairwise_zipIdx topology.agents).imp_of_mem ?_)
  intro first second firstMember secondMember before same
  have places := congrArg (·.bits.toNat) same
  simp only [Handle.ofPlace_bits (place_lt few firstMember),
    Handle.ofPlace_bits (place_lt few secondMember)] at places
  omega

theorem nodup_objectsOf (fits : Fits topology objects) :
    (objectsOf kind topology objects).flatten.Nodup := by
  refine List.nodup_flatten.mpr ⟨?_, ?_⟩
  · intro own listed
    obtain ⟨entry, member, rfl⟩ := List.mem_map.mp listed
    have below := place_lt fits.agents member
    refine List.pairwise_map.mpr ((pairwise_zipIdx (objects entry.1)).imp_of_mem ?_)
    intro first second firstMember secondMember before same
    have places := congrArg Handle.objectPlace same
    have few := fits.own_zipIdx member
    rw [Handle.objectPlace_ofPlaces below, Handle.objectPlace_ofPlaces below,
      Nat.mod_eq_of_lt (place_lt few firstMember),
      Nat.mod_eq_of_lt (place_lt few secondMember)] at places
    omega
  · refine List.pairwise_map.mpr ((pairwise_zipIdx topology.agents).imp_of_mem ?_)
    intro first second firstMember secondMember before handle inFirst inSecond
    obtain ⟨_, _, rfl⟩ := List.mem_map.mp inFirst
    obtain ⟨_, _, same⟩ := List.mem_map.mp inSecond
    have places := congrArg Handle.agentPlace same
    rw [Handle.agentPlace_ofPlaces (place_lt fits.agents firstMember),
      Handle.agentPlace_ofPlaces (place_lt fits.agents secondMember)] at places
    omega

theorem agentsKnown (few : topology.agents.length < UInt32.size) :
    KnowsExactly (start topology).queries.agent AgentAttribute.label (agentsOf topology) where
  distinct := nodup_agentsOf few
  invalid_iff := by
    intro handle selector
    rw [mem_agentsOf_iff few]
    simp only [queries, agentRecord, start, if_true]
    cases topology.agents[handle.bits.toNat]? with
    | none => simp
    | some agent =>
        have reported := agentFact_ne_invalidHandle agent selector
        simp [reported]

theorem region_eq (handle : RegionHandle) (selector : RegionAttribute) :
    (start topology).queries.region handle selector =
      answered regionFact RegionAttribute.label
        ((start topology).objectRecord Agent.regions handle) selector := by
  simp only [queries, answered]
  cases (start topology).objectRecord Agent.regions handle <;> rfl

theorem cache_eq (handle : CacheHandle) (selector : CacheAttribute) :
    (start topology).queries.cache handle selector =
      answered cacheFact CacheAttribute.label
        ((start topology).objectRecord Agent.caches handle) selector := by
  simp only [queries, answered]
  cases (start topology).objectRecord Agent.caches handle <;> rfl

theorem objectsKnown {ask : Handle kind → σ → Answer} {fact : α → σ → Answer} {label : σ → String}
    (asked : ∀ handle selector, ask handle selector =
      answered fact label ((start topology).objectRecord objects handle) selector)
    (reported : ∀ object selector, fact object selector ≠ .error ⟨label selector, .invalidHandle⟩)
    (fits : Fits topology objects) :
    KnowsExactly ask label (objectsOf kind topology objects).flatten where
  distinct := nodup_objectsOf fits
  invalid_iff := by
    intro handle selector
    rw [mem_objectsOf_iff fits, asked]
    simp only [objectRecord, agentRecord, start, if_true]
    cases topology.agents[handle.agentPlace]? with
    | none => simp [answered]
    | some agent =>
        cases listed : (objects agent)[handle.objectPlace]? with
        | none => simp [answered, listed]
        | some object => simp [answered, listed, reported]

theorem agentAnswers (few : topology.agents.length < UInt32.size) :
    AnswersFrom (start topology).queries.agent agentFact (agentsOf topology) topology.agents :=
  forall₂_zipIdx fun _ member =>
    agent_start (place_lt few member) (List.mem_zipIdx_iff_getElem?.mp member)

theorem objectAnswers {ask : Handle kind → σ → Answer} {fact : α → σ → Answer}
    (answered : ∀ {agent object place index}, place < UInt32.size →
      topology.agents[place]? = some agent → (objects agent)[index % UInt32.size]? = some object →
      ∀ selector, ask (.ofPlaces place index) selector = fact object selector)
    (fits : Fits topology objects) :
    List.Forall₂ (AnswersFrom ask fact) (objectsOf kind topology objects)
      (topology.agents.map objects) := by
  refine List.forall₂_map_right_iff.mpr (forall₂_zipIdx fun entry member => ?_)
  refine forall₂_zipIdx fun object own => ?_
  have listed := List.mem_zipIdx_iff_getElem?.mp own
  rw [← Nat.mod_eq_of_lt (place_lt (fits.own_zipIdx member) own)] at listed
  exact answered (place_lt fits.agents member) (List.mem_zipIdx_iff_getElem?.mp member) listed

theorem objectsListed (few : topology.agents.length < UInt32.size) (objects : Agent → List α) :
    List.Forall₂ (fun agent own => (start topology).objectHandles objects agent = .ok own)
      (agentsOf topology) (objectsOf kind topology objects) := by
  refine List.forall₂_map_left_iff.mpr (List.forall₂_map_right_iff.mpr (List.forall₂_same.mpr ?_))
  intro entry member
  exact objectHandles_start objects (place_lt few member) (List.mem_zipIdx_iff_getElem?.mp member)

theorem serves_start (few : topology.Addressable) :
    (start topology).queries.Serves topology (agentsOf topology)
      (objectsOf .region topology Agent.regions) (objectsOf .cache topology Agent.caches) := by
  have agents := few.1
  have regions : Fits topology Agent.regions := ⟨agents, fun agent member => (few.2 agent member).1⟩
  have caches : Fits topology Agent.caches := ⟨agents, fun agent member => (few.2 agent member).2⟩
  exact {
    agentsListed := agents_start topology
    regionsListed := objectsListed agents Agent.regions
    cachesListed := objectsListed agents Agent.caches
    agentsKnown := agentsKnown agents
    regionsKnown := objectsKnown region_eq regionFact_ne_invalidHandle regions
    cachesKnown := objectsKnown cache_eq cacheFact_ne_invalidHandle caches
    agentAnswers := agentAnswers agents
    regionAnswers := objectAnswers region_start regions
    cacheAnswers := objectAnswers cache_start caches }

end Capture.Replay

theorem Queries.Serves.of_system {platform : Queries} {system : SystemAttribute → Answer}
    {topology : Capture.Topology} {agents : List AgentHandle} {regions : List (List RegionHandle)}
    {caches : List (List CacheHandle)}
    (serves : ({ platform with system } : Queries).Serves topology agents regions caches) :
    platform.Serves topology agents regions caches :=
  { serves with }

/-- Both kinds of platforms list one handle for every object, and these answer from the
    records of the objects while no other handle is valid. -/
theorem handles_stand_for_records {topology : Capture.Topology} {snapshot : Kfd.Snapshot}
    (few : topology.Addressable) (slight : snapshot.capture.Addressable) :
    (∃ agents regions caches,
        (Capture.Replay.start topology).queries.Serves topology agents regions caches) ∧
      ∃ agents regions caches,
        ({ snapshot, initialized := true } : Kfd.Driver).queries.Serves snapshot.capture
          agents regions caches := by
  let driver : Kfd.Driver := { snapshot, initialized := true }
  have replayed := Capture.Replay.serves_start slight
  change driver.replay.queries.Serves _ _ _ _ at replayed
  rw [driver.replay_queries] at replayed
  exact ⟨⟨_, _, _, Capture.Replay.serves_start few⟩, ⟨_, _, _, replayed.of_system⟩⟩

/-- The cache of the second agent has its own handle, and the next bits lead nowhere. -/
theorem handles_stand_for_shared_records :
    let driver : Kfd.Driver := { snapshot := .shared, initialized := true }
    ∃ agents regions caches, driver.queries.Serves driver.snapshot.capture agents regions caches ∧
      caches = [[], [⟨4294967296⟩]] ∧
      driver.queries.cache ⟨4294967296⟩ .associativity = .ok (.u32 16) ∧
      driver.queries.cache ⟨4294967297⟩ .associativity =
        .error ⟨"associativity", .invalidHandle⟩ := by
  intro driver
  have few : Kfd.Snapshot.shared.capture.Addressable := by
    simp [Capture.Topology.Addressable, Kfd.Snapshot.shared, Kfd.Snapshot.capture,
      Kfd.AgentRecord.capture, Kfd.AgentRecord.ofNode, UInt32.size]
  obtain ⟨_, agents, regions, caches, serves⟩ := handles_stand_for_records few few
  have listed := serves.cachesListed
  obtain rfl : agents = [⟨0⟩, ⟨1⟩] := Except.ok.inj (serves.agentsListed.symm.trans (by rfl))
  obtain _ | ⟨first, _ | ⟨second, _ | _⟩⟩ := listed
  have none_first : driver.caches ⟨0⟩ = .ok [] := by rfl
  have one_second : driver.caches ⟨1⟩ = .ok [⟨4294967296⟩] := by rfl
  obtain rfl := Except.ok.inj (first.symm.trans none_first)
  obtain rfl := Except.ok.inj (second.symm.trans one_second)
  refine ⟨_, _, _, serves, rfl, by rfl, ?_⟩
  exact (serves.cachesKnown.invalid_iff ⟨4294967297⟩ .associativity).mpr (by decide)

end ComputeTopology
