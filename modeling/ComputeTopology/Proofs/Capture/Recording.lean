import ComputeTopology.Proofs.Capture.Inventory
import ComputeTopology.Proofs.Diagnostics.Delivery
import ComputeTopology.Proofs.ReportText.Sections

namespace ComputeTopology.Capture

open Attribute Diagnostics

section Answers

variable (platform : Queries)

def Region.ofAnswers (handle : RegionHandle) : Region where
  segment := (platform.regionAs Segment handle .segment).toOption
  size := (platform.regionAs UInt64 handle .size).toOption
  hostAccessible := (platform.regionAs Bool handle .hostAccessible).toOption

def Cache.ofAnswers (handle : CacheHandle) : Cache where
  level := (platform.cacheAs UInt8 handle .level).toOption
  size := (platform.cacheAs UInt32 handle .size).toOption
  associativity := (platform.cacheAs UInt32 handle .associativity).toOption

/-- All that a platform answers about an agent and its objects. -/
def Agent.ofAnswers (handle : AgentHandle) : Agent where
  nodeId := (platform.agentAs UInt32 handle .nodeId).toOption
  name := (platform.agentAs String handle .name).toOption
  productName := (platform.agentAs String handle .productName).toOption
  device := (platform.agentAs DeviceClass handle .device).toOption
  computeUnits := (platform.agentAs UInt32 handle .computeUnitCount).toOption
  simdsPerUnit := (platform.agentAs UInt32 handle .simdsPerUnit).toOption
  maxWavesPerUnit := (platform.agentAs UInt32 handle .maxWavesPerUnit).toOption
  chipId := (platform.agentAs UInt32 handle .chipId).toOption
  locationId := (platform.agentAs UInt32 handle .slotId).toOption
  domain := (platform.agentAs UInt32 handle .domain).toOption
  regions := (Survey.listed (platform.regions handle)).map (Region.ofAnswers platform)
  caches := (Survey.listed (platform.caches handle)).map (Cache.ofAnswers platform)

theorem described?_ofAnswers (handle : AgentHandle) :
    (Agent.ofAnswers platform handle).described? = Survey.agentFound platform handle := by
  unfold Survey.agentFound Agent.described?
  simp only [Agent.ofAnswers]
  cases platform.agentAs DeviceClass handle .device with
  | error cause => rfl
  | ok device =>
      apply congrArg some
      simp only [Survey.agentOf, List.filterMap_map, List.map_map]
      cases device <;> rfl

variable {platform}

theorem classified_ofAnswers {handle : AgentHandle} (clear : Survey.agentFaults platform handle = []) :
    (Agent.ofAnswers platform handle).Classified := by
  unfold Survey.agentFaults at clear
  split at clear
  · contradiction
  · rename_i device known
    refine ⟨by simp only [Agent.ofAnswers, known]; rfl, ?_⟩
    unfold Survey.objectFaults at clear
    split at clear
    · contradiction
    · rename_i handles listed
      obtain ⟨clear, _⟩ := List.append_eq_nil_iff.mp clear
      simp only [Agent.ofAnswers, listed, Survey.listed_ok, List.forall_mem_map]
      intro region member
      have passed := List.filterMap_eq_nil_iff.mp clear region member
      unfold Survey.regionFault at passed
      split at passed
      · rename_i segment told
        simp only [Region.ofAnswers, told]
        rfl
      · contradiction

/-- Where nothing goes wrong, every agent is found. -/
theorem length_found {handles : List AgentHandle} (listed : platform.agents = .ok handles)
    (clear : Survey.faults platform = []) :
    (Survey.found platform).agents.length = handles.length := by
  simp only [Survey.faults, listed] at clear
  simp only [Survey.found, listed, Survey.listed_ok, List.length_filterMap_eq_countP,
    List.countP_eq_length]
  intro handle member
  obtain ⟨classified, _⟩ := classified_ofAnswers (List.flatMap_eq_nil_iff.mp clear handle member)
  rw [← described?_ofAnswers, Agent.described?, Option.isSome_map]
  exact classified

theorem nodeCount_of_systemFacts {facts : SystemFacts}
    (known : Survey.systemFacts platform = .ok facts) :
    facts.nodeCount = (platform.systemAs UInt32 .nodeCount).toOption := by
  simp only [Survey.systemFacts, bind_eq_ok_iff] at known
  obtain ⟨major, _, minor, _, composed⟩ := known
  cases composed
  rfl

end Answers

namespace Replay

/-- Handles repeat just as what they lead to, so that all records made by them are reached. -/
theorem reached_map_ofPlaces {kind : ObjectKind} {α : Type} (record : Handle kind → α)
    (owner count : Nat) :
    reached (((List.range count).map (.ofPlaces owner)).map record) =
      ((List.range count).map (.ofPlaces owner)).map record := by
  simp only [reached, List.length_map, List.length_range, List.map_map]
  conv_rhs => rw [← List.filterMap_eq_map (f := record ∘ Handle.ofPlaces owner)]
  apply List.filterMap_congr
  intro place member
  have within : place % UInt32.size < count :=
    Nat.lt_of_le_of_lt (Nat.mod_le _ _) (List.mem_range.mp member)
  simp only [List.getElem?_map, List.getElem?_range within, Option.map_some, Function.comp_apply,
    Handle.ofPlaces_mod]

end Replay

/-- An agent with no class, of which nothing is known. -/
def Agent.blank : Agent where
  nodeId := none
  name := none
  productName := none
  device := none
  computeUnits := none
  simdsPerUnit := none
  maxWavesPerUnit := none
  chipId := none
  locationId := none
  domain := none
  regions := []
  caches := []

/-- A survey makes this agent of a record that it does not stumble over. -/
def Recordable (policy : Survey.Policy) (agent : ComputeTopology.Agent) : Prop :=
  ∃ record : Agent, record.reached.described? = some agent ∧
    (policy = .failFast → record.Classified)

namespace Recordable

variable {policy : Survey.Policy} {agent front back : ComputeTopology.Agent}

theorem named (recordable : Recordable policy agent) : ReportText.Named agent := by
  obtain ⟨record, described, _⟩ := recordable
  obtain ⟨device, _, rfl⟩ := Option.map_eq_some_iff.mp described
  exact ⟨_, _, rfl⟩

theorem joined (frontRecordable : Recordable policy front) (backRecordable : Recordable policy back) :
    Recordable policy (ReportText.joined front back) := by
  have tight := ReportText.tight_joinedName frontRecordable.named backRecordable.named
  obtain ⟨record, described, classified⟩ := backRecordable
  let renamed : Agent := { record with
    nodeId := front.nodeId
    name := none
    productName := some (ReportText.joinedName front back) }
  refine ⟨renamed, ?_, classified⟩
  obtain ⟨device, known, described⟩ := Option.map_eq_some_iff.mp described
  have same : renamed.reached.device = some device := known
  have kind : renamed.reached.kind device = record.reached.kind device := by
    cases device <;> rfl
  have name : ComputeTopology.Agent.displayName renamed.reached.productName renamed.reached.name =
      ReportText.joinedName front back :=
    Agent.displayName_of_tight tight none
  rw [Agent.described?, same, Option.map_some, name, kind, ReportText.joined, ← described]
  rfl

end Recordable

/-- The records of agents that a survey describes in turn. -/
theorem exists_records {policy : Survey.Policy} {agents : List ComputeTopology.Agent}
    (recordable : ∀ agent ∈ agents, Recordable policy agent) :
    ∃ records : List Agent, records.length = agents.length ∧
      records.filterMap (fun record => record.reached.described?) = agents ∧
      (policy = .failFast → ∀ record ∈ records, record.Classified) := by
  induction agents with
  | nil => exact ⟨[], rfl, rfl, fun _ => List.forall_mem_nil _⟩
  | cons agent rest ih =>
      obtain ⟨first, others⟩ := List.forall_mem_cons.mp recordable
      obtain ⟨record, described, classified⟩ := first
      obtain ⟨records, size, shown, clear⟩ := ih others
      refine ⟨record :: records, congrArg (· + 1) size, ?_, fun strict => ?_⟩
      · simp only [List.filterMap_cons, described, shown]
      · exact List.forall_mem_cons.mpr ⟨classified strict, clear strict⟩

section Surveying

variable {topology : Topology} {policy : Survey.Policy}

theorem isClassification_of_mem_faults (few : topology.agents.length < UInt32.size) {failure : Failure}
    (met : failure ∈ Survey.faults (Replay.start topology).queries) :
    failure.isClassification = true := by
  simp only [Survey.faults, Replay.agents_start, List.flatMap_map, List.mem_flatMap] at met
  obtain ⟨⟨agent, place⟩, member, met⟩ := met
  have found := List.mem_zipIdx_iff_getElem?.mp member
  have below := Nat.lt_trans (List.getElem?_eq_some_iff.mp found).1 few
  unfold Survey.agentFaults at met
  split at met
  · rw [List.mem_singleton.mp met]
    rfl
  · simp only [Survey.objectFaults, Replay.regions_start below found, Replay.caches_start below found,
      List.append_nil, List.mem_filterMap] at met
    obtain ⟨handle, _, fault⟩ := met
    obtain ⟨cause, _, rfl⟩ := Survey.regionFault_eq_some fault
    rfl

theorem inventory_of_classified (few : topology.agents.length < UInt32.size)
    (classified : policy = .failFast → topology.Classified) :
    Survey.inventory (Replay.start topology).queries policy =
      .ok ⟨topology.agents.filterMap (fun agent => agent.reached.described?)⟩ := by
  rw [Survey.inventory_eq, Replay.found_reached few, Survey.Policy.settle_eq_ok_iff]
  refine ⟨rfl, fun failure met => ?_⟩
  cases policy with
  | skipObject => exact isClassification_of_mem_faults few met
  | failFast =>
      have segmented : ∀ agent ∈ topology.agents,
          agent.regions.length < UInt32.size ∨ agent.Segmented :=
        fun agent member => .inr (classified rfl agent member).2
      rw [Replay.faults_start few segmented,
        Topology.unclassified_eq_nil_iff.mpr (classified rfl)] at met
      contradiction

/-- A strict report on a capture counts the agents that it shows. -/
theorem strict_report {text : String}
    (reported : report (Replay.start topology).queries .failFast = .ok text) :
    ∃ facts inventory, text = ReportText.ofInventory facts inventory ∧
      facts.nodeCount = Word.ofNat? inventory.agents.length := by
  obtain ⟨facts, inventory, known, surveyed, rfl⟩ := report_eq_ok_iff.mp reported
  have size : inventory.agents.length = topology.agents.length := by
    have clear := Survey.faults_of_failFast surveyed
    obtain rfl := Survey.found_of_inventory surveyed
    rw [length_found (Replay.agents_start topology) clear, List.length_map, List.length_zipIdx]
  refine ⟨facts, inventory, rfl, ?_⟩
  rw [nodeCount_of_systemFacts known, size]
  exact Answer.toOption_read_ofFact .u32 (fun _ => rfl) _ _

end Surveying

theorem exists_fewer {policy : Survey.Policy} {count : Nat} {agents : List ComputeTopology.Agent}
    (recordable : ∀ agent ∈ agents, Recordable policy agent)
    (enough : policy = .failFast → count ≤ agents.length) (positive : agents ≠ [] → 0 < count) :
    ∃ fewer : List ComputeTopology.Agent, fewer.length ≤ count ∧
      (policy = .failFast → fewer.length = count) ∧
      (∀ agent ∈ fewer, Recordable policy agent) ∧
      ReportText.ofAgents fewer = ReportText.ofAgents agents := by
  by_cases short : agents.length ≤ count
  · exact ⟨agents, short, fun strict => Nat.le_antisymm short (enough strict), recordable, rfl⟩
  · have many : agents.length = count + (agents.length - count) := by omega
    have nonempty : agents ≠ [] := by
      rintro rfl
      exact short (Nat.zero_le count)
    obtain ⟨fewer, size, hold, printed⟩ := ReportText.exists_ofAgents_eq
      (fun _ agent => agent.named) (fun _ _ => Recordable.joined) (positive nonempty) many recordable
    exact ⟨fewer, Nat.le_of_eq size, fun _ => size, hold, printed⟩

/-- A capture with these records, filled up to a number of agents. -/
def filled (facts : SystemFacts) (count : Nat) (records : List Agent) : Topology where
  versionMajor := some facts.version.major
  versionMinor := some facts.version.minor
  generationId := facts.generationId
  platformOem := facts.platformOem
  platformId := facts.platformId
  platformRevision := facts.platformRevision
  agents := records ++ List.replicate (count - records.length) .blank

/-- A report on agents that can be recorded, over a number of nodes that the policy
    lets a capture have, is the report on a capture. -/
theorem exists_report {policy : Survey.Policy} {facts : SystemFacts} {count : UInt32}
    {agents : List ComputeTopology.Agent} (counted : facts.nodeCount = some count)
    (recordable : ∀ agent ∈ agents, Recordable policy agent)
    (enough : policy = .failFast → count.toNat ≤ agents.length)
    (positive : agents ≠ [] → 0 < count.toNat) :
    ∃ topology : Topology, report (Replay.start topology).queries policy =
      .ok (ReportText.ofInventory facts ⟨agents⟩) := by
  obtain ⟨fewer, short, exact, hold, printed⟩ := exists_fewer recordable enough positive
  obtain ⟨records, recorded, shown, classified⟩ := exists_records hold
  let topology := filled facts count.toNat records
  have size : topology.agents.length = count.toNat := by
    simp only [topology, filled, List.length_append, List.length_replicate]
    omega
  have few : topology.agents.length < UInt32.size := by
    rw [size]
    exact count.toNat_lt_size
  have clear : policy = .failFast → topology.Classified := by
    intro strict
    have full : count.toNat - records.length = 0 := by
      rw [recorded, exact strict, Nat.sub_self]
    simpa only [Topology.Classified, topology, filled, full, List.replicate_zero, List.append_nil]
      using classified strict
  have described : topology.agents.filterMap (fun agent => agent.reached.described?) = fewer := by
    have blanks : (List.replicate (count.toNat - records.length) Agent.blank).filterMap
        (fun agent => agent.reached.described?) = [] := by
      rw [List.filterMap_replicate_of_none rfl]
    simp only [topology, filled, List.filterMap_append, shown, blanks, List.append_nil]
  have known : Survey.systemFacts (Replay.start topology).queries = .ok facts := by
    rw [Replay.systemFacts_start rfl rfl, size]
    obtain ⟨version, generationId, platformOem, platformId, platformRevision, nodeCount⟩ := facts
    cases counted
    exact congrArg (fun nodes => Except.ok (SystemFacts.mk version generationId platformOem platformId
      platformRevision nodes)) (Word.ofNat?_toNat count)
  refine ⟨topology, ?_⟩
  rw [report, known, inventory_of_classified few clear, described]
  apply congrArg Except.ok
  rw [ReportText.ofInventory_eq, ReportText.ofInventory_eq, printed]

end ComputeTopology.Capture
