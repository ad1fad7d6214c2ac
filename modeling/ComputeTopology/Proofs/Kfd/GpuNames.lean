import ComputeTopology.Proofs.Kfd.Figures
import ComputeTopology.Proofs.Kfd.GraphicsVersions
import ComputeTopology.Proofs.Kfd.OverrideVariables

namespace ComputeTopology.Kfd

open FileTree (Numbered)

/-- The locations with the overrides of these assignments. -/
def Locations.overriddenBy (locations : Locations) (assignments : List (String × String)) :
    Locations :=
  { locations with overrides := .ofVariables assignments }

/-- The name after the version that the kernel states for a node. -/
def Properties.targetName? (properties : Properties) : Option String :=
  (properties.word? "gfx_target_version").map fun target => (GfxVersion.ofTarget target).name

/-- What prevails for a node writes this version. -/
def Overrides.Select (assignments : List (String × String)) (node : UInt32) (version : GfxVersion) :
    Prop :=
  ∃ text, Prevails assignments node text ∧ version.IsWritten text

/-- The GPU of a node is called after the version that these assignments select for it, and
    after the kernel's if they select none. -/
structure AgentRecord.IsCalledAfter (assignments : List (String × String))
    (node : Numbered × Properties) (record : AgentRecord) : Prop where
  nodeId : record.nodeId = node.1.number
  selected : ∀ version, Overrides.Select assignments node.1.number version →
    record.name = some version.name
  otherwise : (¬∃ version, Overrides.Select assignments node.1.number version) →
    record.name = node.2.targetName?
  /-- What is assigned to all nodes does not step in for what is assigned to this one. -/
  hidden : ∀ text, LastGives (Overrides.AssignsNode node.1.number) assignments text →
    (¬∃ version : GfxVersion, version.IsWritten text) → record.name = node.2.targetName?

variable {assignments others : List (String × String)} {files : FileTree} {locations : Locations}
  {entry : Numbered} {node : Numbered × Properties} {record : AgentRecord} {number : UInt32}

theorem forNode_bind_eq_some_iff {version : GfxVersion} :
    ((Overrides.ofVariables assignments).forNode number).bind GfxVersion.ofOverride? = some version ↔
      Overrides.Select assignments number version := by
  simp only [Option.bind_eq_some_iff, Overrides.forNode_eq_some_iff,
    GfxVersion.ofOverride?_eq_some_iff, Overrides.Select]

theorem name_of_made
    (made : (Source.ofFiles files (locations.overriddenBy assignments)).MakesGpu node record) :
    record.name =
      ((((Overrides.ofVariables assignments).forNode node.1.number).bind
        GfxVersion.ofOverride?).map GfxVersion.name).or node.2.targetName? := by
  obtain ⟨regions, caches, rfl⟩ := made
  rw [Properties.targetName?, ← Function.comp_def GfxVersion.name, ← Option.map_map,
    ← Option.map_or]
  rfl

theorem isCalledAfter_of_made
    (made : (Source.ofFiles files (locations.overriddenBy assignments)).MakesGpu node record) :
    record.IsCalledAfter assignments node := by
  have otherwise (unselected : ¬∃ version, Overrides.Select assignments node.1.number version) :
      record.name = node.2.targetName? := by
    simp only [← forNode_bind_eq_some_iff, ← Option.ne_none_iff_exists', not_not] at unselected
    rw [name_of_made made, unselected, Option.map_none, Option.none_or]
  refine ⟨made.isGpuOf.nodeId, ?_, otherwise, ?_⟩
  · intro version selected
    rw [name_of_made made, forNode_bind_eq_some_iff.mpr selected, Option.map_some, Option.some_or]
  · intro text last unwritten
    refine otherwise fun ⟨version, other, prevails, written⟩ => unwritten ⟨version, ?_⟩
    rwa [Overrides.Prevails.unique (.inl last) prevails]

/-- The agents of a node depend on the overrides by what they have for its number. -/
theorem node_of_forNode
    (same : (Overrides.ofVariables assignments).forNode entry.number =
      (Overrides.ofVariables others).forNode entry.number) :
    (Source.ofFiles files (locations.overriddenBy assignments)).node entry =
      (Source.ofFiles files (locations.overriddenBy others)).node entry := by
  have version (properties : Properties) :
      (Source.ofFiles files (locations.overriddenBy assignments)).gfxVersion? entry.number properties =
        (Source.ofFiles files (locations.overriddenBy others)).gfxVersion? entry.number properties := by
    simp only [Source.gfxVersion?, Source.ofFiles, Locations.overriddenBy, same]
  have gpuAgent : (Source.ofFiles files (locations.overriddenBy assignments)).gpuAgent entry.number =
      (Source.ofFiles files (locations.overriddenBy others)).gpuAgent entry.number := by
    funext properties regions caches
    unfold Source.gpuAgent
    rw [version]
    rfl
  unfold Source.node Source.nodeAgents
  rw [gpuAgent]
  rfl

/-- Whether there is a snapshot does not depend on the overrides, nor what it says of the system. -/
theorem load_overridden (files : FileTree) (locations : Locations)
    (assignments others : List (String × String)) :
    Snapshot.load files (locations.overriddenBy others) =
      (Snapshot.load files (locations.overriddenBy assignments)).map fun snapshot =>
        { snapshot with
          agents := (files.numberedEntries locations.nodes).flatMap
            (Source.ofFiles files (locations.overriddenBy others)).node } := by
  unfold Snapshot.load
  by_cases root : files.isDirectory locations.topologyRoot
  · simp only [Locations.overriddenBy, root, if_true, Locations.systemProperties]
    cases Properties.read files (Path.join locations.topologyRoot "system_properties") <;> rfl
  · simp only [Locations.overriddenBy, root]
    rfl

/-- Assignments that agree on what concerns a node give it the same agents. -/
theorem load_of_concerning
    (same : assignments.filter (Overrides.Concerns number ·.1) =
      others.filter (Overrides.Concerns number ·.1))
    {snapshot : Snapshot}
    (loaded : Snapshot.load files (locations.overriddenBy assignments) = .ok snapshot) :
    ∃ other, Snapshot.load files (locations.overriddenBy others) = .ok other ∧
      other.system = snapshot.system ∧
      other.agents.filter (·.nodeId == number) = snapshot.agents.filter (·.nodeId == number) := by
  have alike := load_overridden files locations assignments others
  rw [loaded] at alike
  refine ⟨_, alike, rfl, ?_⟩
  dsimp only
  rw [(load_eq loaded).1, List.filter_flatMap, List.filter_flatMap]
  refine List.flatMap_congr fun entry _ => ?_
  by_cases own : entry.number = number
  · have overridden := Overrides.forNode_of_concerning same
    rw [← own] at overridden
    rw [node_of_forNode overridden]
  · -- Another node may have other agents, but none with this number.
    have none_of (source : Source) :
        (source.node entry).filter (·.nodeId == number) = [] := by
      refine List.filter_eq_nil_iff.mpr fun agent member => ?_
      simpa [Source.nodeId_of_mem_node member] using own
    rw [none_of, none_of]

/-- Of any list of assignments, the one that is last for a node overrides its version, or else
    the last one for all nodes does, or else none. The GPU of a node is called after the
    version so written, and if none is, after the kernel's if there is one. Assignments for
    other nodes have no influence on the override and on the agents of a node. -/
theorem gpu_called_after_override (assignments : List (String × String)) :
    (∀ node text, (Overrides.ofVariables assignments).forNode node = some text ↔
        Overrides.Prevails assignments node text) ∧
      (∀ (files : FileTree) (locations : Locations) (driver : Driver),
        Driver.start files (locations.overriddenBy assignments) = .ok driver →
        List.Forall₂ (AgentRecord.IsCalledAfter assignments) (gpuNodes files locations.nodes)
            (driver.snapshot.agents.filter (·.isGpu)) ∧
          ∀ handle record, driver.agentRecord handle = .ok record →
            driver.agent handle .name = .ofFact AgentAttribute.name.label .text record.name) ∧
      ∀ (others : List (String × String)) (number : UInt32),
        assignments.filter (Overrides.Concerns number ·.1) =
            others.filter (Overrides.Concerns number ·.1) →
        (Overrides.ofVariables others).forNode number =
            (Overrides.ofVariables assignments).forNode number ∧
          ∀ (files : FileTree) (locations : Locations) (driver : Driver),
            Driver.start files (locations.overriddenBy assignments) = .ok driver →
            ∃ other, Driver.start files (locations.overriddenBy others) = .ok other ∧
              other.snapshot.system = driver.snapshot.system ∧
              other.snapshot.agents.filter (·.nodeId == number) =
                driver.snapshot.agents.filter (·.nodeId == number) := by
  refine ⟨fun node text => Overrides.forNode_eq_some_iff, ?_, ?_⟩
  · intro files locations driver started
    obtain ⟨snapshot, loaded, rfl⟩ := start_eq_ok_iff.mp started
    exact ⟨(gpus_of_snapshot loaded).imp fun node record => isCalledAfter_of_made,
      fun handle record known => by simp only [Driver.agent, known]⟩
  · intro others number same
    refine ⟨Overrides.forNode_of_concerning same, fun files locations driver started => ?_⟩
    obtain ⟨snapshot, loaded, rfl⟩ := start_eq_ok_iff.mp started
    obtain ⟨other, alike, system, agents⟩ := load_of_concerning same loaded
    exact ⟨_, start_eq_ok_iff.mpr ⟨other, alike, rfl⟩, system, agents⟩

/-- A GPU that only the variable for all nodes is for, one whose number two variables write in
    different ways, and one whose own variable writes no version. -/
def overriddenNodes : FileTree :=
  treeOfNodes [
    ("0", .directory [("properties", .file (some "simd_count 4\ngfx_target_version 110001\n"))]),
    ("1", .directory [("properties", .file (some "simd_count 4\ngfx_target_version 110001\n"))]),
    ("2", .directory [("properties", .file (some "simd_count 4\ngfx_target_version 90010\n"))])]

theorem gpus_of_overriddenNodes :
    let assignments := [("HSA_OVERRIDE_GFX_VERSION_1", "11.0"),
      ("HSA_OVERRIDE_GFX_VERSION", " 10.3.0\n"), ("HSA_OVERRIDE_GFX_VERSION_+2", "10.3.+"),
      ("HSA_OVERRIDE_GFX_VERSION_01", "9.4.+2"), ("HSA_OVERRIDE_GFX_VERSION_3", "8.0.3")]
    ∃ driver, Driver.start overriddenNodes (rootLocations.overriddenBy assignments) = .ok driver ∧
      List.Forall₂ (fun (number, name) record => record.nodeId = number ∧ record.name = some name)
        [(0, "gfx1030"), (1, "gfx942"), (2, "gfx90a")]
        (driver.snapshot.agents.filter (·.isGpu)) ∧
      ∃ other, Driver.start overriddenNodes (rootLocations.overriddenBy (assignments.take 4)) =
          .ok other ∧
        other.snapshot.agents.filter (·.nodeId == 1) =
          driver.snapshot.agents.filter (·.nodeId == 1) := by
  intro assignments
  obtain ⟨driver, started⟩ := @exists_driver overriddenNodes (rootLocations.overriddenBy assignments)
    (by decide +kernel)
  have general : Overrides.Select assignments 0 ⟨10, 3, 0⟩ :=
    forNode_bind_eq_some_iff.mp (by decide +kernel)
  have own : Overrides.Select assignments 1 ⟨9, 4, 2⟩ :=
    forNode_bind_eq_some_iff.mp (by decide +kernel)
  have malformed : LastGives (Overrides.AssignsNode 2) assignments "10.3.+" :=
    Overrides.lookup_perNode_ofVariables.mp (by decide +kernel)
  have unwritten : ¬∃ version : GfxVersion, version.IsWritten "10.3.+" := by
    simp only [← GfxVersion.ofOverride?_eq_some_iff, ← Option.ne_none_iff_exists', not_not]
    decide +kernel
  have nodes : (gpuNodes overriddenNodes rootLocations.nodes).map
      (fun node => (node.1.number, node.2.targetName?)) =
      [(0, some "gfx1101"), (1, some "gfx1101"), (2, some "gfx90a")] := by
    decide +kernel
  obtain ⟨_, called, apart⟩ := gpu_called_after_override assignments
  obtain ⟨gpus, _⟩ := called overriddenNodes rootLocations driver started
  obtain ⟨_, alike⟩ := apart (assignments.take 4) 1 (by decide +kernel)
  obtain ⟨other, startedToo, _, same⟩ := alike overriddenNodes rootLocations driver started
  refine ⟨driver, started, ?_, other, startedToo, same⟩
  rw [← List.forall₂_eq_eq_eq, List.forall₂_map_left_iff] at nodes
  have followed := forall₂_trans nodes.flip gpus
  -- The GPUs one by one, each with the number and the target of its node.
  simp only [List.forall₂_cons_left_iff, List.forall₂_nil_left_iff] at followed ⊢
  obtain ⟨first, _, ⟨node, known, isFirst⟩, ⟨second, _, ⟨next, knownToo, isSecond⟩,
    ⟨third, _, ⟨last, knownLast, isThird⟩, rfl, rfl⟩, rfl⟩, listed⟩ := followed
  obtain ⟨number, _⟩ := Prod.mk.inj known
  obtain ⟨numberToo, _⟩ := Prod.mk.inj knownToo
  obtain ⟨numberLast, target⟩ := Prod.mk.inj knownLast
  refine ⟨first, _, ⟨isFirst.nodeId.trans number, ?_⟩, ⟨second, _,
    ⟨isSecond.nodeId.trans numberToo, ?_⟩, ⟨third, _, ⟨isThird.nodeId.trans numberLast, ?_⟩,
    rfl, rfl⟩, rfl⟩, listed⟩
  · exact isFirst.selected ⟨10, 3, 0⟩ (by rwa [number])
  · exact isSecond.selected ⟨9, 4, 2⟩ (by rwa [numberToo])
  · rw [isThird.hidden "10.3.+" (by rwa [numberLast]) unwritten, target]

end ComputeTopology.Kfd
