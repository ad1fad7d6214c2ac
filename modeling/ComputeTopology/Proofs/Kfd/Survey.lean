import ComputeTopology.Proofs.Capture.Inventory
import ComputeTopology.Proofs.Kfd.Capture
import ComputeTopology.Proofs.Kfd.Nodes

namespace ComputeTopology.Kfd

/-- The topology root is a directory, and the properties of the system can be read. -/
def Loadable (files : FileTree) (locations : Locations) : Prop :=
  files.HoldsDirectory locations.topologyRoot ∧ files.HoldsText locations.systemProperties

/-- The properties of every numbered node directory can be read. -/
def NodesReadable (files : FileTree) (locations : Locations) : Prop :=
  ∀ entry, files.HoldsNumbered locations.nodes entry →
    files.HoldsText (Path.join (Path.join locations.nodes entry.name) "properties")

section Loading

variable {files : FileTree} {locations : Locations} {path : String}

theorem read_ok_iff :
    (∃ properties, Properties.read files path = .ok properties) ↔ files.HoldsText path := by
  unfold Properties.read FileTree.HoldsText
  simp only [← FileTree.readText_eq_ok_iff]
  cases files.readText path <;> simp

theorem read_error_iff :
    (∃ failure, Properties.read files path = .error failure) ↔ ¬files.HoldsText path := by
  rw [← read_ok_iff]
  cases Properties.read files path <;> simp

theorem load_ok_iff :
    (∃ snapshot, Snapshot.load files locations = .ok snapshot) ↔ Loadable files locations := by
  rw [Loadable, ← FileTree.isDirectory_iff, ← read_ok_iff]
  unfold Snapshot.load
  cases files.isDirectory locations.topologyRoot with
  | false => simp
  | true => cases Properties.read files locations.systemProperties <;> simp

theorem nodeAgents_classified (source : Source) (nodeId : UInt32) (path : String)
    (properties : Properties) :
    ∀ agent ∈ source.nodeAgents nodeId path properties, agent.deviceClass.isSome = true := by
  intro agent member
  have own := List.mem_map_of_mem (f := (·.deviceClass)) member
  rw [Source.nodeAgents_classes] at own
  simp only [List.mem_append, List.mem_ite_nil_right, List.mem_singleton] at own
  rcases own with ⟨_, same⟩ | ⟨_, same⟩ <;> rw [same] <;> rfl

/-- An agent without a class stands for a node whose properties cannot be read. -/
theorem node_classified_iff (source : Source) (entry : FileTree.Numbered) :
    (∀ agent ∈ source.node entry, agent.deviceClass.isSome = true) ↔
      source.files.HoldsText (Path.join (Path.join source.locations.nodes entry.name) "properties") := by
  cases read : Properties.read source.files
      (Path.join (Path.join source.locations.nodes entry.name) "properties") with
  | error failure =>
      have unreadable := read_error_iff.mp ⟨failure, read⟩
      rw [Source.node_of_unreadable read, List.forall_mem_singleton]
      exact iff_of_false Bool.false_ne_true unreadable
  | ok properties =>
      have readable := read_ok_iff.mp ⟨properties, read⟩
      rw [Source.node_of_readable read]
      exact iff_of_true (nodeAgents_classified source entry.number _ properties) readable

theorem load_eq {snapshot : Snapshot} (loaded : Snapshot.load files locations = .ok snapshot) :
    snapshot.agents =
        (files.numberedEntries locations.nodes).flatMap (Source.ofFiles files locations).node ∧
      snapshot.system.nodeCount =
        .ofNat (min (files.numberedEntries locations.nodes).length (UInt32.size - 1)) := by
  unfold Snapshot.load at loaded
  split at loaded
  · split at loaded
    · contradiction
    · cases loaded
      exact ⟨rfl, rfl⟩
  · contradiction

theorem start_eq_ok_iff {driver : Driver} :
    Driver.start files locations = .ok driver ↔
      ∃ snapshot, Snapshot.load files locations = .ok snapshot ∧
        { snapshot, initialized := true } = driver := by
  unfold Driver.start
  cases Snapshot.load files locations <;> simp

theorem exists_driver (starts : (Driver.start files locations).toOption.isSome = true) :
    ∃ driver, Driver.start files locations = .ok driver := by
  cases started : Driver.start files locations with
  | error cause => simp [started, Except.toOption] at starts
  | ok driver => exact ⟨driver, rfl⟩

/-- Without a node there is no agent. -/
theorem load_nodeCount_pos {snapshot : Snapshot}
    (loaded : Snapshot.load files locations = .ok snapshot) (some_agent : snapshot.agents ≠ []) :
    0 < snapshot.system.nodeCount.toNat := by
  obtain ⟨agents, count⟩ := load_eq loaded
  have nodes : 0 < (files.numberedEntries locations.nodes).length := by
    apply List.length_pos_of_ne_nil
    intro none_listed
    rw [none_listed, List.flatMap_nil] at agents
    exact some_agent agents
  rw [count, UInt32.toNat_ofNat']
  unfold UInt32.size
  omega

theorem capture_segmented {snapshot : Snapshot} {agent : Capture.Agent}
    (member : agent ∈ snapshot.capture.agents) : agent.Segmented := by
  obtain ⟨known, _, rfl⟩ := List.mem_map.mp member
  intro region listed
  obtain ⟨bank, _, rfl⟩ := List.mem_map.mp listed
  rfl

theorem capture_classified_iff {snapshot : Snapshot} :
    snapshot.capture.Classified ↔ ∀ agent ∈ snapshot.agents, agent.deviceClass.isSome = true := by
  constructor
  · intro classified agent member
    exact (classified agent.capture (List.mem_map_of_mem member)).1
  · intro classified agent member
    have segmented := capture_segmented member
    obtain ⟨known, knownMember, rfl⟩ := List.mem_map.mp member
    exact ⟨classified known knownMember, segmented⟩

theorem load_classified_iff {snapshot : Snapshot}
    (loaded : Snapshot.load files locations = .ok snapshot) :
    snapshot.capture.Classified ↔ NodesReadable files locations := by
  rw [capture_classified_iff, (load_eq loaded).1]
  simp only [List.mem_flatMap, NodesReadable, ← FileTree.mem_numberedEntries_iff]
  constructor
  · intro classified entry member
    exact (node_classified_iff (.ofFiles files locations) entry).mp
      (fun agent found => classified agent ⟨entry, member, found⟩)
  · rintro readable agent ⟨entry, member, found⟩
    exact (node_classified_iff (.ofFiles files locations) entry).mpr (readable entry member) agent found

end Loading

variable {snapshot : Snapshot} {policy : Survey.Policy}

/-- A survey asks nothing of the system. -/
theorem inventory_replay (driver : Driver) (policy : Survey.Policy) :
    Survey.inventory driver.queries policy = Survey.inventory driver.replay.queries policy := by
  rw [driver.replay_queries, Survey.inventory_eq, Survey.inventory_eq]
  rfl

/-- The agents of a snapshot that have a class, as far as handles lead to their objects. -/
def Snapshot.inventory (snapshot : Snapshot) : Inventory where
  agents := snapshot.capture.agents.filterMap (fun agent => agent.reached.described?)

theorem inventory_of_addressable (few : snapshot.capture.Addressable) :
    snapshot.inventory = snapshot.capture.inventory :=
  (Capture.Replay.found_reached few.1).symm.trans (Capture.Replay.found_start few)

theorem inventory_driver (few : snapshot.agents.length < UInt32.size) (policy : Survey.Policy) :
    Survey.inventory ({ snapshot, initialized := true } : Driver).queries policy =
      policy.settle snapshot.capture.unclassified snapshot.inventory := by
  have slight : snapshot.capture.agents.length < UInt32.size := by
    rwa [Snapshot.capture, List.length_map]
  rw [inventory_replay, Survey.inventory_eq]
  change policy.settle (Survey.faults (Capture.Replay.start snapshot.capture).queries)
    (Survey.found (Capture.Replay.start snapshot.capture).queries) = _
  rw [Capture.Replay.faults_start slight (fun _ member => .inr (capture_segmented member)),
    Capture.Replay.found_reached slight, Snapshot.inventory]

/-- What a snapshot tells about the system. -/
def Snapshot.facts (snapshot : Snapshot) : SystemFacts where
  version := { major := Driver.interfaceMajor, minor := Driver.interfaceMinor }
  generationId := snapshot.system.generationId
  platformOem := snapshot.system.platformOem
  platformId := snapshot.system.platformId
  platformRevision := snapshot.system.platformRevision
  nodeCount := some snapshot.system.nodeCount

theorem systemFacts_driver (snapshot : Snapshot) :
    Survey.systemFacts ({ snapshot, initialized := true } : Driver).queries =
      .ok snapshot.facts := by
  have answers (selector : SystemAttribute) :
      ({ snapshot, initialized := true } : Driver).queries.system selector =
        ({ snapshot, initialized := true } : Driver).system selector := rfl
  simp only [Survey.systemFacts, Survey.versionPart, Queries.systemAs, answers, Driver.system, if_true,
    Attribute.Answer.toOption_read_ofFact .u32 (fun _ => rfl),
    Attribute.Answer.toOption_read_ofFact .u64 (fun _ => rfl)]
  rfl

/-- A capture counts its agents instead of the nodes. -/
theorem systemFacts_capture (snapshot : Snapshot) :
    Survey.systemFacts (Capture.Replay.start snapshot.capture).queries =
      .ok { snapshot.facts with nodeCount := Word.ofNat? snapshot.agents.length } := by
  have count : snapshot.capture.agents.length = snapshot.agents.length := List.length_map _
  rw [← count]
  exact Capture.Replay.systemFacts_start rfl rfl

end ComputeTopology.Kfd
