import Mathlib.Algebra.Order.BigOperators.Group.List
import Mathlib.Algebra.Order.Group.Nat
import Mathlib.Data.List.Perm.Subperm
import ComputeTopology.Proofs.Kfd.ListingOrder
import ComputeTopology.Proofs.Kfd.Locality
import ComputeTopology.Proofs.Survey.Descriptions
import ComputeTopology.Proofs.Survey.Pruning

namespace ComputeTopology.Kfd

open FileTree (Numbered)

section Classes

/-- The classes of the agents of a node, given what is read of its properties. -/
structure ClassesOf (read : Except Unreadable Properties) (classes : List (Option DeviceClass)) :
    Prop where
  unclassified : none ∈ classes ↔ ∃ failure, read = .error failure
  cpu : some .cpu ∈ classes ↔
    ∃ properties, read = .ok properties ∧ properties.Counts "cpu_cores_count"
  gpu : some .gpu ∈ classes ↔
    ∃ properties, read = .ok properties ∧ properties.Counts "simd_count"
  ordered : classes = [none] ∨ classes.Sublist [some .cpu, some .gpu]

theorem ClassesOf.length_le {read : Except Unreadable Properties}
    {classes : List (Option DeviceClass)} (classesOf : ClassesOf read classes) :
    classes.length ≤ 2 := by
  rcases classesOf.ordered with rfl | sublist
  · decide
  · exact sublist.length_le

namespace Source

theorem node_classes (source : Source) (entry : Numbered) :
    ClassesOf
      (Properties.read source.files
        (Path.join (Path.join source.locations.nodes entry.name) "properties"))
      ((source.node entry).map (·.deviceClass)) := by
  cases read : Properties.read source.files
      (Path.join (Path.join source.locations.nodes entry.name) "properties") with
  | error failure =>
      rw [node_of_unreadable read]
      constructor <;> simp [AgentRecord.ofNode]
  | ok properties =>
      rw [node_of_readable read, nodeAgents_classes]
      by_cases cores : properties.Counts "cpu_cores_count" <;>
        by_cases simds : properties.Counts "simd_count" <;>
        constructor <;> simp [count_pos_iff, cores, simds]

theorem length_node_le (source : Source) (entry : Numbered) : (source.node entry).length ≤ 2 := by
  simpa using (source.node_classes entry).length_le

end Source

end Classes

section Loaded

variable {files : FileTree} {locations : Locations} {snapshot : Snapshot} {entry : Numbered}

theorem length_le_of_distinct {entries : List Numbered}
    (distinct : (entries.map (·.number)).Nodup) : entries.length ≤ UInt32.size := by
  have numbers : ((entries.map (·.number)).map UInt32.toNat).Nodup :=
    distinct.map fun _ _ => UInt32.toNat_inj.mp
  have below : (entries.map (·.number)).map UInt32.toNat ⊆ List.range UInt32.size := by
    intro number member
    obtain ⟨word, _, rfl⟩ := List.mem_map.mp member
    exact List.mem_range.mpr word.toNat_lt_size
  simpa using (numbers.subperm below).length_le

theorem length_agents_le (loaded : Snapshot.load files locations = .ok snapshot) :
    snapshot.agents.length ≤ 2 * (files.numberedEntries locations.nodes).length := by
  have each := List.sum_le_card_nsmul
    ((files.numberedEntries locations.nodes).map fun entry =>
      ((Source.ofFiles files locations).node entry).length) 2
    (List.forall_mem_map.mpr fun entry _ => Source.length_node_le _ entry)
  rw [(load_eq loaded).1, List.length_flatMap]
  simpa [Nat.mul_comm] using each

/-- The agents of a node stand together, and its properties tell which they are. -/
theorem agents_of_node (loaded : Snapshot.load files locations = .ok snapshot)
    (distinct : ((files.numberedEntries locations.nodes).map (·.number)).Nodup)
    (listed : entry ∈ files.numberedEntries locations.nodes) :
    ∃ before own after, snapshot.agents = before ++ own ++ after ∧
      (∀ agent ∈ own, agent.nodeId = entry.number) ∧
      (∀ agent ∈ before ++ after, agent.nodeId ≠ entry.number) ∧
      ClassesOf
        (Properties.read files (Path.join (Path.join locations.nodes entry.name) "properties"))
        (own.map (·.deviceClass)) := by
  obtain ⟨before, after, split, apart⟩ := split_at_number distinct listed
  obtain ⟨apartBefore, apartAfter⟩ := List.forall_mem_append.mp apart
  refine ⟨before.flatMap (Source.ofFiles files locations).node,
    (Source.ofFiles files locations).node entry,
    after.flatMap (Source.ofFiles files locations).node, ?_,
    fun _ => Source.nodeId_of_mem_node, ?_, (Source.ofFiles files locations).node_classes entry⟩
  · rw [(load_eq loaded).1, split, List.flatMap_append, List.flatMap_cons, List.append_assoc]
  · exact List.forall_mem_append.mpr
      ⟨fun _ => nodeId_of_mem_others apartBefore, fun _ => nodeId_of_mem_others apartAfter⟩

/-- What relates the parts of every readable node to the agents that are kept of it relates the
    parts of all nodes to the agents that are kept of a snapshot, as long as no agent is kept
    of a node that cannot be read. -/
theorem forall₂_parts {α : Type} {related : α → AgentRecord → Prop}
    {parts : Numbered × Properties → List α} {keep : AgentRecord → Bool}
    (loaded : Snapshot.load files locations = .ok snapshot)
    (dropped : ∀ nodeId, keep (.ofNode nodeId) = false)
    (ofNode : ∀ node : Numbered × Properties,
      Properties.read files (Path.join (Path.join locations.nodes node.1.name) "properties") =
        .ok node.2 →
      List.Forall₂ related (parts node)
        (((Source.ofFiles files locations).node node.1).filter keep)) :
    List.Forall₂ related ((readable files locations.nodes).flatMap parts)
      (snapshot.agents.filter keep) := by
  rw [(load_eq loaded).1, readable, List.filterMap_eq_flatMap_toList, List.flatMap_assoc,
    List.filter_flatMap]
  refine List.rel_flatMap (R := Eq) (List.forall₂_refl _) ?_
  rintro entry _ rfl
  beta_reduce
  cases read : Properties.read files
      (Path.join (Path.join locations.nodes entry.name) "properties") with
  | error failure =>
      rw [@Source.node_of_unreadable (.ofFiles files locations) _ _ read,
        List.filter_cons_of_neg (Bool.eq_false_iff.mp (dropped _))]
      exact .nil
  | ok properties => simpa [Except.toOption] using ofNode (entry, properties) read

/-- The agents of one kind in a snapshot follow the nodes that count what makes them. -/
theorem forall₂_counting {related : Numbered × Properties → AgentRecord → Prop}
    {property : String} {keep : AgentRecord → Bool}
    (loaded : Snapshot.load files locations = .ok snapshot)
    (dropped : ∀ nodeId, keep (.ofNode nodeId) = false)
    (ofNode : ∀ node : Numbered × Properties, ∃ own, related node own ∧
      ((Source.ofFiles files locations).nodeAgents node.1.number
        (Path.join locations.nodes node.1.name) node.2).filter keep =
          if 0 < node.2.count property then [own] else []) :
    List.Forall₂ related
      ((readable files locations.nodes).filter (fun node => 0 < node.2.count property))
      (snapshot.agents.filter keep) := by
  rw [← List.flatMap_singleton' (readable files locations.nodes), List.filter_flatMap]
  refine forall₂_parts loaded dropped fun node read => ?_
  obtain ⟨record, relates, agents⟩ := ofNode node
  have own := (congrArg (List.filter keep)
    (@Source.node_of_readable (.ofFiles files locations) _ _ read)).trans agents
  rw [own]
  by_cases counts : 0 < node.2.count property
  · simpa [counts] using relates
  · simp [counts]

theorem node_of_mem_agents (loaded : Snapshot.load files locations = .ok snapshot)
    {agent : AgentRecord} (member : agent ∈ snapshot.agents) :
    ∃ entry ∈ files.numberedEntries locations.nodes, agent.nodeId = entry.number := by
  rw [(load_eq loaded).1] at member
  obtain ⟨entry, listed, own⟩ := List.mem_flatMap.mp member
  exact ⟨entry, listed, Source.nodeId_of_mem_node own⟩

theorem count_nodeId_le (loaded : Snapshot.load files locations = .ok snapshot)
    (distinct : ((files.numberedEntries locations.nodes).map (·.number)).Nodup) (number : UInt32) :
    (snapshot.agents.map (·.nodeId)).count number ≤ 2 := by
  by_cases bears : number ∈ snapshot.agents.map (·.nodeId)
  · obtain ⟨agent, member, rfl⟩ := List.mem_map.mp bears
    obtain ⟨entry, listed, same⟩ := node_of_mem_agents loaded member
    obtain ⟨before, own, after, agents, _, apart, classes⟩ :=
      agents_of_node loaded distinct listed
    obtain ⟨apartBefore, apartAfter⟩ := List.forall_mem_append.mp apart
    have none_of_others {others : List AgentRecord}
        (apart : ∀ agent ∈ others, agent.nodeId ≠ entry.number) :
        (others.map (·.nodeId)).count entry.number = 0 := by
      rw [List.count_eq_zero]
      intro found
      obtain ⟨agent, member, same⟩ := List.mem_map.mp found
      exact apart agent member same
    have few : (own.map (·.nodeId)).count entry.number ≤ 2 := by
      refine List.count_le_length.trans ?_
      simpa using classes.length_le
    rw [same, agents, List.map_append, List.map_append, List.count_append, List.count_append,
      none_of_others apartBefore, none_of_others apartAfter]
    omega
  · rw [List.count_eq_zero.mpr bears]
    exact Nat.zero_le 2

theorem nodeCount_eq (loaded : Snapshot.load files locations = .ok snapshot) :
    snapshot.system.nodeCount.toNat =
      min (files.numberedEntries locations.nodes).length (UInt32.size - 1) := by
  rw [(load_eq loaded).2, UInt32.toNat_ofNat']
  unfold UInt32.size
  omega

end Loaded

section Reported

/-- What a survey reports of an agent that has a class, apart from its regions and caches. -/
structure AgentRecord.ReportedAs (record : AgentRecord) (agent : Agent) : Prop where
  nodeId : agent.nodeId = some record.nodeId
  deviceClass : record.deviceClass = some agent.deviceClass
  name : agent.name = Agent.displayName record.productName record.name
  kind : agent.kind = record.capture.kind agent.deviceClass

variable {driver : Driver} {handle : AgentHandle} {record : AgentRecord}

theorem objectHandles_of_known {kind : ObjectKind} {α : Type} (objects : AgentRecord → List α)
    (known : driver.agentRecord handle = .ok record) :
    (driver.objectHandles objects handle : Except PlatformError (List (Handle kind))) =
      .ok ((List.range (objects record).length).map (.ofPlaces handle.bits.toNat)) := by
  rw [Driver.objectHandles, known]

theorem agentFaults_classify (known : driver.agentRecord handle = .ok record) :
    ∀ failure ∈ Survey.agentFaults driver.queries handle, failure.isClassification = true := by
  intro failure met
  have regions : driver.queries.regions handle = .ok _ :=
    objectHandles_of_known AgentRecord.regions known
  have caches : driver.queries.caches handle = .ok _ :=
    objectHandles_of_known AgentRecord.caches known
  unfold Survey.agentFaults at met
  split at met
  · rw [List.mem_singleton.mp met]
    rfl
  · simp only [Survey.objectFaults, regions, caches, List.append_nil] at met
    exact Survey.regionFaults_classify met

theorem agentFound_of_known (known : driver.agentRecord handle = .ok record) :
    Survey.agentFound driver.queries handle =
      record.deviceClass.map (Survey.agentOf driver.queries handle) := by
  simp only [Survey.agentFound, Queries.agentAs, Driver.queries, Driver.agent, known,
    Attribute.Answer.toOption_read_ofFact .device (fun _ => rfl)]

theorem reportedAs_agentOf (known : driver.agentRecord handle = .ok record)
    {deviceClass : DeviceClass} (classified : record.deviceClass = some deviceClass) :
    record.ReportedAs (Survey.agentOf driver.queries handle deviceClass) := by
  have kind : Survey.kind driver.queries handle deviceClass = record.capture.kind deviceClass := by
    cases deviceClass <;>
      simp only [Survey.kind, Survey.gpuFigures, Queries.agentAs, Driver.queries, Driver.agent, known,
        Attribute.Answer.toOption_read_ofFact .u32 (fun _ => rfl), Capture.Agent.kind,
        AgentRecord.capture]
  have same : (record.capture.kind deviceClass).deviceClass = deviceClass := by
    cases deviceClass <;> rfl
  have ofClass : (Survey.agentOf driver.queries handle deviceClass).deviceClass = deviceClass :=
    (congrArg AgentKind.deviceClass kind).trans same
  constructor
  · simp only [Survey.agentOf, Queries.agentAs, Driver.queries, Driver.agent, known]
    rfl
  · rw [ofClass, classified]
  · simp only [Survey.agentOf, Survey.name, Queries.agentAs, Driver.queries, Driver.agent, known,
      Attribute.Answer.toOption_read_ofFact .text (fun _ => rfl)]
  · rw [ofClass]
    exact kind

variable {snapshot : Snapshot}

theorem agentRecord_of_mem_zipIdx (few : snapshot.agents.length < UInt64.size)
    {item : AgentRecord × Nat} (member : item ∈ snapshot.agents.zipIdx) :
    ({ snapshot, initialized := true } : Driver).agentRecord (.ofPlace item.2) = .ok item.1 := by
  have found := List.mem_zipIdx_iff_getElem?.mp member
  obtain ⟨below, _⟩ := List.getElem?_eq_some_iff.mp found
  simp only [Driver.agentRecord, if_true, Handle.toNat_ofPlace (Nat.lt_trans below few), found]

theorem agents_driver (snapshot : Snapshot) :
    ({ snapshot, initialized := true } : Driver).queries.agents =
      .ok (snapshot.agents.zipIdx.map (fun item => .ofPlace item.2)) := by
  simp only [Driver.queries, Driver.agents, if_true, Capture.Replay.map_range_length]

theorem faults_classify (few : snapshot.agents.length < UInt64.size) :
    ∀ failure ∈ Survey.faults ({ snapshot, initialized := true } : Driver).queries,
      failure.isClassification = true := by
  intro failure met
  simp only [Survey.faults, agents_driver] at met
  obtain ⟨handle, listed, met⟩ := List.mem_flatMap.mp met
  obtain ⟨item, member, rfl⟩ := List.mem_map.mp listed
  exact agentFaults_classify (agentRecord_of_mem_zipIdx few member) failure met

theorem found_reportedAs (few : snapshot.agents.length < UInt64.size) :
    List.Forall₂ AgentRecord.ReportedAs (snapshot.agents.filter (·.deviceClass.isSome))
      (Survey.found ({ snapshot, initialized := true } : Driver).queries).agents := by
  have visited := @forall₂_filterMap _ _ _ AgentRecord.ReportedAs (·.deviceClass.isSome)
    (Survey.agentFound ({ snapshot, initialized := true } : Driver).queries)
    (snapshot.agents.zipIdx.map fun item => (item.1, .ofPlace item.2)) ?_
  · simpa only [Survey.found, agents_driver, Survey.listed_ok, List.map_map, Function.comp_def,
      List.zipIdx_map_fst] using visited
  · refine List.forall_mem_map.mpr fun item member => ?_
    have known := agentRecord_of_mem_zipIdx few member
    rw [agentFound_of_known known]
    cases classified : item.1.deviceClass with
    | none => rfl
    | some deviceClass => exact ⟨_, rfl, reportedAs_agentOf known classified⟩

/-- A lenient survey of the platform never fails, and reports the agents that have a class. -/
theorem inventory_lenient (few : snapshot.agents.length < UInt64.size) :
    ∃ inventory,
      Survey.inventory ({ snapshot, initialized := true } : Driver).queries .skipObject =
        .ok inventory ∧
      List.Forall₂ AgentRecord.ReportedAs (snapshot.agents.filter (·.deviceClass.isSome))
        inventory.agents := by
  refine ⟨_, ?_, found_reportedAs few⟩
  rw [Survey.inventory_eq, Survey.Policy.settle_eq_ok_iff]
  exact ⟨rfl, faults_classify few⟩

end Reported

/-- The agents of a loaded topology go by the numbers of their nodes, at most two to a node.
    Those of one node stand together: an agent without a class if the properties cannot be
    read, and else a CPU before a GPU, each if the node counts some of its kind. The nodes
    are counted whatever agents they yield, up to what 32 bits can count. A lenient survey
    reports exactly the agents with a class, in their order. -/
theorem agents_follow_nodes {files : FileTree} {locations : Locations} {snapshot : Snapshot}
    (loaded : Snapshot.load files locations = .ok snapshot)
    (distinct : ((files.numberedEntries locations.nodes).map (·.number)).Nodup) :
    let nodes := files.numberedEntries locations.nodes
    (∀ entry, entry ∈ nodes ↔ files.HoldsNumbered locations.nodes entry) ∧
      snapshot.agents.Pairwise (·.nodeId ≤ ·.nodeId) ∧
      (∀ number, (snapshot.agents.map (·.nodeId)).count number ≤ 2) ∧
      (∀ agent ∈ snapshot.agents, ∃ entry ∈ nodes, agent.nodeId = entry.number) ∧
      (∀ entry ∈ nodes, ∃ before own after, snapshot.agents = before ++ own ++ after ∧
        (∀ agent ∈ own, agent.nodeId = entry.number) ∧
        (∀ agent ∈ before ++ after, agent.nodeId ≠ entry.number) ∧
        ClassesOf
          (Properties.read files (Path.join (Path.join locations.nodes entry.name) "properties"))
          (own.map (·.deviceClass))) ∧
      snapshot.agents.length ≤ 2 * nodes.length ∧
      snapshot.system.nodeCount.toNat = min nodes.length (UInt32.size - 1) ∧
      (nodes.length < UInt32.size → snapshot.system.nodeCount.toNat = nodes.length ∧
        snapshot.agents.length ≤ 2 * snapshot.system.nodeCount.toNat) ∧
      ∃ driver inventory, Driver.start files locations = .ok driver ∧
        Survey.inventory driver.queries .skipObject = .ok inventory ∧
        List.Forall₂ AgentRecord.ReportedAs (snapshot.agents.filter (·.deviceClass.isSome))
          inventory.agents ∧
        (snapshot.capture.Addressable → inventory = snapshot.capture.inventory) := by
  intro nodes
  have few : snapshot.agents.length < UInt64.size := by
    have nodesFew := length_le_of_distinct distinct
    have agentsFew := length_agents_le loaded
    unfold UInt32.size at nodesFew
    unfold UInt64.size
    omega
  have counted := nodeCount_eq loaded
  obtain ⟨inventory, surveyed, reported⟩ := inventory_lenient few
  refine ⟨fun entry => FileTree.mem_numberedEntries_iff, agents_in_order loaded,
    count_nodeId_le loaded distinct, fun agent => node_of_mem_agents loaded,
    fun entry => agents_of_node loaded distinct, length_agents_le loaded, counted, fun below => ?_,
    { snapshot, initialized := true }, inventory, by rw [Driver.start, loaded], surveyed, reported,
    fun addressable => ?_⟩
  · have all : snapshot.system.nodeCount.toNat = nodes.length :=
      counted.trans (Nat.min_eq_left (Nat.le_pred_of_lt below))
    exact ⟨all, all ▸ length_agents_le loaded⟩
  · rw [inventory_driver (few_agents addressable), Survey.Policy.settle_eq_ok_iff] at surveyed
    rw [← surveyed.1, inventory_of_addressable addressable]

/-- Nodes of all kinds, out of order: one with cores and SIMDs, one without properties, one
    with cores alone, one that counts nothing, and one whose count does not fit. -/
def assortedNodes : FileTree :=
  treeOfNodes [
    ("10", .directory [("properties", .file (some "cpu_cores_count 8\nsimd_count 4\n"))]),
    ("1", .directory []),
    ("0", .directory [("properties", .file (some "cpu_cores_count 16\n"))]),
    ("2", .directory [("properties", .file (some "simd_count 0\n"))]),
    ("3", .directory [("properties", .file (some "cpu_cores_count 4294967296\n"))])]

theorem agents_of_assortedNodes :
    let first := { AgentRecord.ofNode 0 with deviceClass := some .cpu, computeUnits := some 16 }
    let cpu := { AgentRecord.ofNode 10 with deviceClass := some .cpu, computeUnits := some 8 }
    let gpu := { AgentRecord.ofNode 10 with deviceClass := some .gpu }
    ∃ snapshot, Snapshot.load assortedNodes rootLocations = .ok snapshot ∧
      snapshot.agents = [first, .ofNode 1, cpu, gpu] ∧ snapshot.system.nodeCount.toNat = 5 ∧
      ∃ driver inventory, Driver.start assortedNodes rootLocations = .ok driver ∧
        Survey.inventory driver.queries .skipObject = .ok inventory ∧
        List.Forall₂ AgentRecord.ReportedAs [first, cpu, gpu] inventory.agents := by
  intro first cpu gpu
  have loaded : Snapshot.load assortedNodes rootLocations =
      .ok ⟨⟨none, none, none, none, 5⟩, [first, .ofNode 1, cpu, gpu]⟩ := by
    decide +kernel
  have distinct :
      ((assortedNodes.numberedEntries rootLocations.nodes).map (·.number)).Nodup := by
    decide +kernel
  obtain ⟨_, _, _, _, _, _, _, _, driver, inventory, started, surveyed, reported, _⟩ :=
    agents_follow_nodes loaded distinct
  exact ⟨_, loaded, rfl, rfl, driver, inventory, started, surveyed, reported⟩

end ComputeTopology.Kfd
