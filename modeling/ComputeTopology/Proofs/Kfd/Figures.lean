import ComputeTopology.Proofs.Kfd.Agents

namespace ComputeTopology

namespace GpuFigures

/-- The figures of a device with so many SIMDs, given how many of them a compute unit has and
    how many waves a SIMD has, in integers without bound. Compute units are whole ones, and
    SIMDs that make up no whole one are not counted. -/
structure Exact (figures : GpuFigures) (simds : Nat) (perUnit perSimd : Option Nat) : Prop where
  computeUnits : figures.computeUnits.map UInt32.toNat = (perUnit.filter (0 < ·)).map (simds / ·)
  totalSimds : figures.totalSimds.map UInt64.toNat =
    (perUnit.filter (0 < ·)).map (fun count => simds - simds % count)
  wavesPerSimd : figures.wavesPerSimd.map UInt32.toNat =
    if perUnit = some 0 then some 0
    else perUnit.bind (fun count => perSimd.filter (· * count < UInt32.size))

end GpuFigures

namespace Kfd

namespace Source

theorem toNat_computeUnits? (simds perUnit : UInt32) :
    (computeUnits? simds (some perUnit)).map UInt32.toNat =
      if perUnit.toNat = 0 then none else some (simds.toNat / perUnit.toNat) := by
  by_cases idle : perUnit = 0
  · simp [computeUnits?, idle]
  · have counts : perUnit.toNat ≠ 0 := fun zero => idle (UInt32.toNat_inj.mp zero)
    simp only [computeUnits?, Option.bind_some, if_neg idle, if_neg counts, Option.map_some,
      UInt32.toNat_div]

theorem toNat_maxWavesPerUnit? (perSimd perUnit : UInt32) :
    (maxWavesPerUnit? (some perSimd) (some perUnit)).map UInt32.toNat =
      if perSimd.toNat * perUnit.toNat < UInt32.size then some (perSimd.toNat * perUnit.toNat)
      else none :=
  @Word.toNat_ofNat? UInt32 _ _

end Source

/-- The steps of the calculation on two 32-bit numbers are those on integers: of the products
    one is checked and the other always fits, and both divisions are guarded. -/
structure StepsExact (first second : UInt32) : Prop where
  computeUnits : (Source.computeUnits? first (some second)).map UInt32.toNat =
    if second.toNat = 0 then none else some (first.toNat / second.toNat)
  maxWavesPerUnit : (Source.maxWavesPerUnit? (some first) (some second)).map UInt32.toNat =
    if first.toNat * second.toNat < UInt32.size then some (first.toNat * second.toNat) else none
  totalSimds : (GpuFigures.totalSimds? (some first) (some second)).map UInt64.toNat =
    some (first.toNat * second.toNat)
  wavesPerSimd : (GpuFigures.wavesPerSimd? (some second) (some first)).map UInt32.toNat =
    some (if second.toNat = 0 then 0 else first.toNat / second.toNat)

theorem stepsExact (first second : UInt32) : StepsExact first second where
  computeUnits := Source.toNat_computeUnits? first second
  maxWavesPerUnit := Source.toNat_maxWavesPerUnit? first second
  totalSimds := GpuFigures.toNat_totalSimds? (some first) (some second)
  wavesPerSimd := by
    rw [GpuFigures.toNat_wavesPerSimd?, Option.map_some, Option.bind_some, Option.map_some]
    split <;> rfl

/-- The waves of a SIMD come back from those of a compute unit. -/
theorem waves_recovered {perUnit : UInt32} (counts : perUnit.toNat ≠ 0) (perSimd : UInt32) :
    (GpuFigures.wavesPerSimd? (some perUnit)
        (Source.maxWavesPerUnit? (some perSimd) (some perUnit))).map UInt32.toNat =
      if perSimd.toNat * perUnit.toNat < UInt32.size then some perSimd.toNat else none := by
  rw [GpuFigures.toNat_wavesPerSimd?, Source.toNat_maxWavesPerUnit?, Option.map_some,
    Option.bind_some, if_neg counts]
  split
  · rw [Option.map_some, Nat.mul_div_cancel _ (Nat.pos_of_ne_zero counts)]
  · rfl

theorem exact_derive (simds : UInt32) (perUnit perSimd chipId locationId domain : Option UInt32) :
    (GpuFigures.derive (Source.computeUnits? simds perUnit) perUnit
        (Source.maxWavesPerUnit? perSimd perUnit) chipId locationId domain).Exact
      simds.toNat (perUnit.map UInt32.toNat) (perSimd.map UInt32.toNat) := by
  cases perUnit with
  | none =>
      have waves : Source.maxWavesPerUnit? perSimd none = none := by cases perSimd <;> rfl
      constructor <;> simp only [GpuFigures.derive, waves] <;> rfl
  | some perUnit =>
      by_cases counts : perUnit.toNat = 0
      · obtain rfl : perUnit = 0 := UInt32.toNat_inj.mp counts
        constructor <;> rfl
      · have positive := Nat.pos_of_ne_zero counts
        have kept : (some perUnit.toNat).filter (0 < ·) = some perUnit.toNat := by
          simp only [Option.filter_some, positive, decide_true, if_true]
        have units := Source.toNat_computeUnits? simds perUnit
        rw [if_neg counts] at units
        constructor
        · simp only [GpuFigures.derive, units, Option.map_some, kept]
        · simp only [GpuFigures.derive, GpuFigures.toNat_totalSimds?, units, Option.map_some,
            Option.bind_some, kept, Nat.div_mul_self_eq_mod_sub_self]
        · rw [Option.map_some, if_neg (by simpa using counts), Option.bind_some]
          cases perSimd with
          | none =>
              simp only [GpuFigures.derive, GpuFigures.toNat_wavesPerSimd?, Option.map_some,
                Option.bind_some, if_neg counts]
              rfl
          | some perSimd =>
              simp only [GpuFigures.derive, waves_recovered counts, Option.map_some,
                Option.filter_some, decide_eq_true_eq]

open FileTree (Numbered)

section Nodes

/-- The figures that the properties of a node amount to. -/
def Properties.AmountTo (properties : Properties) (figures : GpuFigures) : Prop :=
  figures.Exact (properties.count "simd_count").toNat
    ((properties.word? "simd_per_cu" : Option UInt32).map UInt32.toNat)
    ((properties.word? "max_waves_per_simd" : Option UInt32).map UInt32.toNat)

/-- The figures that a survey derives from a record. -/
def AgentRecord.figures (record : AgentRecord) : GpuFigures :=
  .derive record.computeUnits record.simdsPerUnit record.maxWavesPerUnit record.chipId
    record.locationId record.domain

structure AgentRecord.IsGpuOf (node : Numbered × Properties) (record : AgentRecord) : Prop where
  nodeId : record.nodeId = node.1.number
  deviceClass : record.deviceClass = some .gpu
  figures : node.2.AmountTo record.figures

def AgentRecord.isGpu (record : AgentRecord) : Bool :=
  record.deviceClass == some .gpu

def countsSimds (node : Numbered × Properties) : Bool :=
  0 < node.2.count "simd_count"

/-- The nodes with readable properties that count SIMDs. -/
def gpuNodes (files : FileTree) (path : String) : List (Numbered × Properties) :=
  (readable files path).filter countsSimds

namespace Source

variable {source : Source}

/-- The GPU of a node, with the regions and caches that fall to it. -/
def MakesGpu (source : Source) (node : Numbered × Properties) (record : AgentRecord) : Prop :=
  ∃ regions caches, record = source.gpuAgent node.1.number node.2 regions caches

theorem MakesGpu.isGpuOf {node : Numbered × Properties} {record : AgentRecord}
    (made : source.MakesGpu node record) : record.IsGpuOf node := by
  obtain ⟨regions, caches, rfl⟩ := made
  exact ⟨rfl, rfl, exact_derive _ _ _ _ _ _⟩

end Source

variable {files : FileTree} {locations : Locations} {snapshot : Snapshot}

/-- Every GPU node has one GPU in the snapshot, and the GPUs stand in the order of their nodes. -/
theorem gpus_of_snapshot (loaded : Snapshot.load files locations = .ok snapshot) :
    List.Forall₂ (Source.ofFiles files locations).MakesGpu (gpuNodes files locations.nodes)
      (snapshot.agents.filter (·.isGpu)) := by
  refine forall₂_counting loaded (fun _ => rfl) fun node => ?_
  obtain ⟨regions, caches, gpus⟩ := (Source.ofFiles files locations).nodeAgents_filter
    node.1.number (Path.join locations.nodes node.1.name) node.2 .gpu
  exact ⟨_, ⟨regions, caches, rfl⟩, gpus⟩

theorem isGpuOf_of_node {entry : Numbered} {properties : Properties}
    (loaded : Snapshot.load files locations = .ok snapshot)
    (listed : files.HoldsNumbered locations.nodes entry)
    (read : Properties.read files
      (Path.join (Path.join locations.nodes entry.name) "properties") = .ok properties)
    (counts : properties.Counts "simd_count") :
    ∃ record ∈ snapshot.agents, record.IsGpuOf (entry, properties) := by
  have member : (entry, properties) ∈ gpuNodes files locations.nodes :=
    List.mem_filter.mpr
      ⟨mem_readable_iff.mpr ⟨listed, read⟩, decide_eq_true (count_pos_iff.mpr counts)⟩
  obtain ⟨record, inside, made⟩ := exists_of_forall₂ (gpus_of_snapshot loaded) _ member
  exact ⟨record, (List.mem_filter.mp inside).1, made.isGpuOf⟩

end Nodes

section Surveyed

variable {driver : Driver} {handle : AgentHandle} {record : AgentRecord}

theorem gpuFigures_of_known (known : driver.agentRecord handle = .ok record) :
    Survey.gpuFigures driver.queries handle = record.figures := by
  simp only [Survey.gpuFigures, Queries.agentAs, Driver.queries, Driver.agent, known,
    Attribute.Answer.toOption_read_ofFact .u32 (fun _ => rfl), AgentRecord.figures]

theorem AgentRecord.ReportedAs.gpu? {agent : Agent} (reported : record.ReportedAs agent)
    (isGpu : record.deviceClass = some .gpu) : agent.gpu? = some record.figures := by
  have ofClass : agent.deviceClass = .gpu :=
    Option.some.inj (reported.deviceClass.symm.trans isGpu)
  have kind := reported.kind
  rw [ofClass] at kind
  rw [Agent.gpu?, kind]
  rfl

/-- The GPUs of a survey, in the order of their nodes. -/
theorem gpus_of_inventory {snapshot : Snapshot} {files : FileTree} {locations : Locations}
    (loaded : Snapshot.load files locations = .ok snapshot)
    (few : snapshot.agents.length < UInt64.size) {policy : Survey.Policy} {inventory : Inventory}
    (surveyed : Survey.inventory ({ snapshot, initialized := true } : Driver).queries policy =
      .ok inventory) :
    List.Forall₂
      (fun node agent => agent.nodeId = some node.1.number ∧
        ∃ figures, agent.gpu? = some figures ∧ node.2.AmountTo figures)
      (gpuNodes files locations.nodes) (inventory.agents.filter (·.deviceClass == .gpu)) := by
  have reported := found_reportedAs few
  rw [Survey.found_of_inventory surveyed] at reported
  have gpus := @List.rel_filter _ _ AgentRecord.ReportedAs (·.isGpu) (·.deviceClass == .gpu) ?_ _ _
    reported
  · rw [List.filter_filter] at gpus
    have classified : snapshot.agents.filter (fun record => record.isGpu && record.deviceClass.isSome) =
        snapshot.agents.filter (·.isGpu) := by
      refine List.filter_congr fun record _ => ?_
      cases same : record.deviceClass <;> simp [AgentRecord.isGpu, same]
    rw [classified] at gpus
    refine (forall₂_trans (gpus_of_snapshot loaded) gpus).imp ?_
    rintro node agent ⟨record, made, reportedAs⟩
    have isGpuOf := made.isGpuOf
    exact ⟨reportedAs.nodeId.trans (congrArg some isGpuOf.nodeId), _,
      reportedAs.gpu? isGpuOf.deviceClass, isGpuOf.figures⟩
  · intro record agent reportedAs
    simp [AgentRecord.isGpu, reportedAs.deviceClass]

end Surveyed

/-- Whatever 32-bit numbers the properties of a GPU node hold, the figures that a survey derives
    are those of integers without bound, and no step on the way wraps or divides by zero. As
    long as there are handles for all agents, a survey reports one GPU for every such node. -/
theorem gpu_figures_exact {files : FileTree} {locations : Locations} {driver : Driver}
    (started : Driver.start files locations = .ok driver) :
    (∀ first second, StepsExact first second) ∧
      (∀ entry properties, files.HoldsNumbered locations.nodes entry →
        Properties.read files (Path.join (Path.join locations.nodes entry.name) "properties") =
          .ok properties →
        properties.Counts "simd_count" →
        ∃ record ∈ driver.snapshot.agents, record.nodeId = entry.number ∧
          record.deviceClass = some .gpu ∧
          ∀ handle, driver.agentRecord handle = .ok record →
            properties.AmountTo (Survey.gpuFigures driver.queries handle)) ∧
      (driver.snapshot.agents.length < UInt64.size →
        (∃ inventory, Survey.inventory driver.queries .skipObject = .ok inventory) ∧
          ∀ policy inventory, Survey.inventory driver.queries policy = .ok inventory →
            List.Forall₂
              (fun node agent => agent.nodeId = some node.1.number ∧
                ∃ figures, agent.gpu? = some figures ∧ node.2.AmountTo figures)
              (gpuNodes files locations.nodes)
              (inventory.agents.filter (·.deviceClass == .gpu))) := by
  unfold Driver.start at started
  split at started
  · rename_i snapshot loaded
    cases started
    refine ⟨stepsExact, fun entry properties listed read counts => ?_, fun few => ⟨?_, ?_⟩⟩
    · obtain ⟨record, member, isGpuOf⟩ := isGpuOf_of_node loaded listed read counts
      refine ⟨record, member, isGpuOf.nodeId, isGpuOf.deviceClass, fun handle known => ?_⟩
      rw [gpuFigures_of_known known]
      exact isGpuOf.figures
    · obtain ⟨inventory, surveyed, _⟩ := inventory_lenient few
      exact ⟨inventory, surveyed⟩
    · exact fun policy inventory surveyed => gpus_of_inventory loaded few surveyed
  · contradiction

/-- Nodes with SIMDs that make up no whole compute unit, with compute units of no SIMDs, and
    with more waves than 32 bits can count. The first has processor cores as well. -/
def unevenNodes : FileTree :=
  treeOfNodes [
    ("0", .directory [("properties", .file (some
      "cpu_cores_count 8\nsimd_count 7\nsimd_per_cu 2\nmax_waves_per_simd 10\n"))]),
    ("1", .directory [("properties", .file (some
      "simd_count 8\nsimd_per_cu 0\nmax_waves_per_simd 4\n"))]),
    ("2", .directory [("properties", .file (some
      "simd_count 4294967295\nsimd_per_cu 65536\nmax_waves_per_simd 65536\n"))])]

theorem gpu_figures_of_unevenNodes :
    ∃ driver inventory, Driver.start unevenNodes rootLocations = .ok driver ∧
      Survey.inventory driver.queries .skipObject = .ok inventory ∧
      List.Forall₂
        (fun (number, computeUnits, totalSimds, wavesPerSimd) agent =>
          agent.nodeId = some number ∧ ∃ figures, agent.gpu? = some figures ∧
            figures.computeUnits.map UInt32.toNat = computeUnits ∧
            figures.totalSimds.map UInt64.toNat = totalSimds ∧
            figures.wavesPerSimd.map UInt32.toNat = wavesPerSimd)
        [(0, some 3, some 6, some 10), (1, none, none, some 0),
          (2, some 65535, some 4294901760, none)]
        (inventory.agents.filter (·.deviceClass == .gpu)) := by
  have agents : (Driver.start unevenNodes rootLocations).toOption.map
      (·.snapshot.agents.length) = some 4 := by
    decide +kernel
  cases started : Driver.start unevenNodes rootLocations with
  | error cause => simp [started, Except.toOption] at agents
  | ok driver =>
      have count : driver.snapshot.agents.length = 4 := by
        simpa [started, Except.toOption] using agents
      have few : driver.snapshot.agents.length < UInt64.size := by
        rw [count]
        decide
      obtain ⟨_, _, surveys⟩ := gpu_figures_exact started
      obtain ⟨⟨inventory, surveyed⟩, reports⟩ := surveys few
      have expected : (gpuNodes unevenNodes rootLocations.nodes).map (fun node =>
          let simds := (node.2.count "simd_count").toNat
          let perUnit := (node.2.word? "simd_per_cu" : Option UInt32).map UInt32.toNat
          let perSimd := (node.2.word? "max_waves_per_simd" : Option UInt32).map UInt32.toNat
          (node.1.number, (perUnit.filter (0 < ·)).map (simds / ·),
            (perUnit.filter (0 < ·)).map (fun count => simds - simds % count),
            if perUnit = some 0 then some 0
            else perUnit.bind (fun count => perSimd.filter (· * count < UInt32.size)))) =
          [(0, some 3, some 6, some 10), (1, none, none, some 0),
            (2, some 65535, some 4294901760, none)] := by
        decide +kernel
      refine ⟨driver, inventory, rfl, surveyed, ?_⟩
      rw [← expected, List.forall₂_map_left_iff]
      refine (reports .skipObject inventory surveyed).imp ?_
      rintro node agent ⟨number, figures, known, amount⟩
      exact ⟨number, figures, known, amount.computeUnits, amount.totalSimds, amount.wavesPerSimd⟩

end Kfd

end ComputeTopology
