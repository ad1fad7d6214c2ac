import ComputeTopology.Proofs.Kfd.Agents
import ComputeTopology.Proofs.Text.Trim

namespace ComputeTopology

theorem FileTree.readTrimmed_eq (files : FileTree) (path : String) :
    files.readTrimmed path = (files.readText path).toOption.bind Text.trimmed? := by
  unfold readTrimmed
  cases files.readText path with
  | error failure => rfl
  | ok text =>
      simp only [Except.toOption, Option.bind_some, Text.trimmed?, List.isEmpty_iff,
        Text.trim_eq_nil_iff]

namespace Kfd

open FileTree (Numbered)

/-- What the name file at a path says, blanks at its ends apart, unless it is missing, no text
    or blank. -/
def writtenName? (files : FileTree) (path : String) : Option String :=
  (files.readText (Path.join path "name")).toOption.bind Text.trimmed?

/-- The model that the description of the processors has for the first one of a node. -/
def modelName? (files : FileTree) (cpuInfo : String) (properties : Properties) : Option String :=
  (properties.word? "cpu_core_id_base").bind (CpuModels.load files cpuInfo).model?

/-- The name that a CPU has if the model steps in for the name file. -/
def nameOrModel? (files : FileTree) (locations : Locations) (node : Numbered × Properties) :
    Option String :=
  (writtenName? files (Path.join locations.nodes node.1.name)).or
    (modelName? files locations.cpuInfo node.2)

/-- The CPU of a node is called after its name file alone. That is the name with the model in
    reserve exactly if there is no need of the model or none to be had, and whichever of the
    two names it has, the same name is shown. -/
structure AgentRecord.IsCalledAfterFile (files : FileTree) (locations : Locations)
    (node : Numbered × Properties) (record : AgentRecord) : Prop where
  nodeId : record.nodeId = node.1.number
  name : record.name = writtenName? files (Path.join locations.nodes node.1.name)
  productName : record.productName = modelName? files locations.cpuInfo node.2
  complete_iff : record.name = nameOrModel? files locations node ↔
    writtenName? files (Path.join locations.nodes node.1.name) ≠ none ∨
      modelName? files locations.cpuInfo node.2 = none
  shown : Agent.displayName record.productName record.name =
    Agent.displayName record.productName (nameOrModel? files locations node)

def AgentRecord.isCpu (record : AgentRecord) : Bool :=
  record.deviceClass == some .cpu

def countsCores (node : Numbered × Properties) : Bool :=
  0 < node.2.count "cpu_cores_count"

/-- The nodes with readable properties that count processor cores. -/
def cpuNodes (files : FileTree) (path : String) : List (Numbered × Properties) :=
  (readable files path).filter countsCores

namespace Source

/-- The CPU of a node, with the regions and caches that fall to it. -/
def MakesCpu (source : Source) (node : Numbered × Properties) (record : AgentRecord) : Prop :=
  ∃ regions caches, record = source.cpuAgent node.1.number
    (Path.join source.locations.nodes node.1.name) node.2 regions caches

end Source

section Snapshots

variable {files : FileTree} {locations : Locations} {snapshot : Snapshot}
  {node : Numbered × Properties} {record : AgentRecord}

/-- Every node with cores has one CPU in the snapshot, and the CPUs stand in the order of their
    nodes. -/
theorem cpus_of_snapshot (loaded : Snapshot.load files locations = .ok snapshot) :
    List.Forall₂ (Source.ofFiles files locations).MakesCpu (cpuNodes files locations.nodes)
      (snapshot.agents.filter (·.isCpu)) := by
  refine forall₂_counting loaded (fun _ => rfl) fun node => ?_
  obtain ⟨regions, caches, cpus⟩ := (Source.ofFiles files locations).nodeAgents_filter
    node.1.number (Path.join locations.nodes node.1.name) node.2 .cpu
  exact ⟨_, ⟨regions, caches, rfl⟩, cpus⟩

theorem eq_or_iff (written model : Option String) :
    written = written.or model ↔ written ≠ none ∨ model = none := by
  cases written <;> simp [eq_comm]

/-- A product that is shown is shown in place of any other name, and one that is not is as
    good as no other name. -/
theorem displayName_or_product (written product : Option String) :
    Agent.displayName product written = Agent.displayName product (written.or product) := by
  rw [Agent.displayName_eq, Agent.displayName_eq]
  cases written with
  | some name => rfl
  | none =>
      rw [Option.none_or, Option.bind_none, Option.or_none]
      cases product.bind Text.trimmed? <;> rfl

theorem isCalledAfterFile_of_made (made : (Source.ofFiles files locations).MakesCpu node record) :
    record.IsCalledAfterFile files locations node := by
  obtain ⟨regions, caches, rfl⟩ := made
  have name : files.readTrimmed (Path.join (Path.join locations.nodes node.1.name) "name") =
      writtenName? files (Path.join locations.nodes node.1.name) :=
    FileTree.readTrimmed_eq files _
  refine ⟨rfl, name, rfl, ?_, ?_⟩
  · simp only [Source.cpuAgent, Source.ofFiles, name]
    exact eq_or_iff _ _
  · simp only [Source.cpuAgent, Source.ofFiles, name]
    exact displayName_or_product _ _

end Snapshots

/-- The generic name of every CPU is what the name file of its node says, blanks at its ends
    apart, and it is not reported if the file is missing, no text or blank. The model of the
    node's first processor is the product name and never the generic one, so the generic name
    is the file's or else the model's exactly for those CPUs that have a name in their file or
    no model. No head of a section shows the difference. -/
theorem cpu_called_after_file {files : FileTree} {locations : Locations} {driver : Driver}
    (started : Driver.start files locations = .ok driver) :
    List.Forall₂ (AgentRecord.IsCalledAfterFile files locations) (cpuNodes files locations.nodes)
        (driver.snapshot.agents.filter (·.isCpu)) ∧
      ∀ handle record, driver.agentRecord handle = .ok record →
        driver.agent handle .name = .ofFact AgentAttribute.name.label .text record.name ∧
          driver.agent handle .productName =
            .ofFact AgentAttribute.productName.label .text record.productName := by
  obtain ⟨snapshot, loaded, rfl⟩ := start_eq_ok_iff.mp started
  refine ⟨(cpus_of_snapshot loaded).imp fun node record => isCalledAfterFile_of_made,
    fun handle record known => ?_⟩
  simp only [Driver.agent, known, and_self]

/-- Nodes with cores beside a description of the processors: a name file that says something, a
    blank one and none, where the description has a model for the first two nodes. -/
def describedNodes : FileTree :=
  .directory [
    ("topology", .directory [("system_properties", .file (some "")), ("nodes", .directory [
      ("0", .directory [("name", .file (some " Raphael\n")),
        ("properties", .file (some "cpu_cores_count 8\ncpu_core_id_base 0\n"))]),
      ("1", .directory [("name", .file (some "\n")),
        ("properties", .file (some "cpu_cores_count 8\ncpu_core_id_base 16\n"))]),
      ("2", .directory [("properties", .file (some "cpu_cores_count 8\n"))])])]),
    ("cpuinfo", .file (some
      "model name\t: Ryzen\napicid\t\t: 0\n\nmodel name\t: EPYC\napicid\t\t: 16\n"))]

def describedLocations : Locations :=
  { rootLocations with cpuInfo := "/cpuinfo" }

theorem cpus_of_describedNodes :
    ∃ driver, Driver.start describedNodes describedLocations = .ok driver ∧
      List.Forall₂
        (fun (name, product) record => record.name = name ∧ record.productName = product)
        [(some "Raphael", some "Ryzen"), (none, some "EPYC"), (none, none)]
        (driver.snapshot.agents.filter (·.isCpu)) := by
  obtain ⟨driver, started⟩ := @exists_driver describedNodes describedLocations (by decide +kernel)
  have nodes : (cpuNodes describedNodes describedLocations.nodes).map (fun node =>
      (writtenName? describedNodes (Path.join describedLocations.nodes node.1.name),
        modelName? describedNodes describedLocations.cpuInfo node.2)) =
      [(some "Raphael", some "Ryzen"), (none, some "EPYC"), (none, none)] := by
    decide +kernel
  obtain ⟨called, _⟩ := cpu_called_after_file started
  refine ⟨driver, started, ?_⟩
  rw [← nodes, List.forall₂_map_left_iff]
  exact called.imp fun node record isCalled => ⟨isCalled.name, isCalled.productName⟩

/-- A CPU without a name in its file has no generic name, although there is a model for it. -/
theorem model_not_in_reserve :
    ∃ driver, Driver.start describedNodes describedLocations = .ok driver ∧
      driver.agent (.ofPlace 1) .name =
        .error ⟨AgentAttribute.name.label, .notReported⟩ ∧
      (cpuNodes describedNodes describedLocations.nodes).map
          (nameOrModel? describedNodes describedLocations) =
        [some "Raphael", some "EPYC", none] ∧
      ¬List.Forall₂ (fun node record =>
          record.name = nameOrModel? describedNodes describedLocations node)
        (cpuNodes describedNodes describedLocations.nodes)
        (driver.snapshot.agents.filter (·.isCpu)) := by
  have answers : (Driver.start describedNodes describedLocations).toOption.map (fun driver =>
      (driver.agent (.ofPlace 1) .name, (driver.snapshot.agents.filter (·.isCpu)).map (·.name))) =
      some (.error ⟨AgentAttribute.name.label, .notReported⟩, [some "Raphael", none, none]) := by
    decide +kernel
  have reserve : (cpuNodes describedNodes describedLocations.nodes).map
      (nameOrModel? describedNodes describedLocations) = [some "Raphael", some "EPYC", none] := by
    decide +kernel
  obtain ⟨driver, started⟩ := exists_driver
    (Option.isSome_map.symm.trans (congrArg Option.isSome answers))
  rw [started] at answers
  obtain ⟨answer, names⟩ := Prod.mk.inj (Option.some.inj answers)
  refine ⟨driver, started, answer, reserve, fun named => ?_⟩
  have same : (cpuNodes describedNodes describedLocations.nodes).map
      (nameOrModel? describedNodes describedLocations) =
      (driver.snapshot.agents.filter (·.isCpu)).map (·.name) := by
    rw [← List.forall₂_eq_eq_eq, List.forall₂_map_left_iff, List.forall₂_map_right_iff]
    exact named.imp fun node record => Eq.symm
  rw [reserve, names] at same
  exact absurd same (by decide)

end Kfd

end ComputeTopology
