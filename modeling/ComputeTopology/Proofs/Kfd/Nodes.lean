import ComputeTopology.Kfd.Node
import ComputeTopology.Proofs.FileTree.Listing

namespace ComputeTopology.Kfd

open FileTree (Numbered)

section Reading

variable {files : FileTree} {path : String}

/-- The objects in the numbered directories at a path, as far as they can be read. -/
def readable (files : FileTree) (path : String) : List (Numbered × Properties) :=
  (files.numberedEntries path).filterMap fun entry =>
    (Properties.read files (Path.join (Path.join path entry.name) "properties")).toOption.map
      (entry, ·)

/-- A list of the objects at a path that can be read, in numeric order. -/
structure ListsReadable (files : FileTree) (path : String) (objects : List (Numbered × Properties)) :
    Prop where
  ordered : objects.Pairwise (·.1.number ≤ ·.1.number)
  /-- None is repeated that the directory does not list repeatedly. -/
  once : (objects.map (·.1)).Sublist (files.numberedEntries path)
  complete : ∀ entry properties, (entry, properties) ∈ objects ↔
    files.HoldsNumbered path entry ∧
      Properties.read files (Path.join (Path.join path entry.name) "properties") = .ok properties

theorem mem_readable_iff {entry : Numbered} {properties : Properties} :
    (entry, properties) ∈ readable files path ↔
      files.HoldsNumbered path entry ∧
        Properties.read files (Path.join (Path.join path entry.name) "properties") =
          .ok properties := by
  simp only [readable, List.mem_filterMap, Option.map_eq_some_iff, Prod.mk.injEq,
    FileTree.mem_numberedEntries_iff]
  constructor
  · rintro ⟨entry, listed, _, kept, rfl, rfl⟩
    refine ⟨listed, ?_⟩
    cases read : Properties.read files (Path.join (Path.join path entry.name) "properties") with
    | error failure => simp [read, Except.toOption] at kept
    | ok found => simpa [read, Except.toOption] using kept
  · rintro ⟨listed, read⟩
    exact ⟨entry, listed, properties, by rw [read]; rfl, rfl, rfl⟩

theorem readable_sublist (files : FileTree) (path : String) :
    ((readable files path).map (·.1)).Sublist (files.numberedEntries path) := by
  unfold readable
  induction files.numberedEntries path with
  | nil => exact .slnil
  | cons entry rest ih =>
      cases read : Properties.read files (Path.join (Path.join path entry.name) "properties") with
      | error failure =>
          rw [List.filterMap_cons_none (by rw [read]; rfl)]
          exact ih.cons entry
      | ok properties =>
          rw [List.filterMap_cons_some (by rw [read]; rfl)]
          exact ih.cons_cons entry

theorem listsReadable (files : FileTree) (path : String) :
    ListsReadable files path (readable files path) where
  ordered := by
    refine List.Pairwise.filterMap _ ?_ (FileTree.numberedEntries_sorted files path)
    intro first second before object kept other otherKept
    obtain ⟨_, _, rfl⟩ := Option.map_eq_some_iff.mp kept
    obtain ⟨_, _, rfl⟩ := Option.map_eq_some_iff.mp otherKept
    exact before
  once := readable_sublist files path
  complete _ _ := mem_readable_iff

theorem objects_eq {α : Type} (source : Source) (path : String) (ofProperties : Properties → α) :
    source.objects path ofProperties =
      (readable source.files path).map (fun object => ofProperties object.2) := by
  rw [readable, List.map_filterMap, Source.objects]
  apply List.filterMap_congr
  intro entry _
  cases Properties.read source.files (Path.join (Path.join path entry.name) "properties") <;> rfl

end Reading

/-- A property is a 32-bit number above zero. -/
def Properties.Counts (properties : Properties) (key : String) : Prop :=
  ∃ value : UInt32, properties.word? key = some value ∧ 0 < value

theorem count_pos_iff {properties : Properties} {key : String} :
    0 < properties.count key ↔ properties.Counts key := by
  unfold Properties.count Properties.Counts
  cases (properties.word? key : Option UInt32) <;> simp

namespace Source

variable {source : Source} {entry : Numbered} {properties : Properties} {failure : Unreadable}

theorem node_of_unreadable
    (read : Properties.read source.files
      (Path.join (Path.join source.locations.nodes entry.name) "properties") = .error failure) :
    source.node entry = [.ofNode entry.number] := by
  unfold node
  extract_lets path
  rw [read]

theorem node_of_readable
    (read : Properties.read source.files
      (Path.join (Path.join source.locations.nodes entry.name) "properties") = .ok properties) :
    source.node entry =
      source.nodeAgents entry.number (Path.join source.locations.nodes entry.name) properties := by
  unfold node
  extract_lets path
  rw [read]

end Source

/-- Whether a bank holds host memory. -/
def ofHost (bank : Numbered × Properties) : Bool :=
  bank.2.word? "heap_type" == some (0 : UInt32)

/-- Whether a cache serves the SIMDs of its node, which have the processor numbers from the
    base on. -/
def ofSimds (base : UInt32) (cache : Numbered × Properties) : Bool :=
  (cache.2.word? "processor_id_low").any (base ≤ ·)

theorem isHostMemory_ofBank (bank : Numbered × Properties) :
    (RegionRecord.ofBank bank.2).isHostMemory = ofHost bank := by
  have heap (heapType : Option UInt32) :
      ((RegionRecord.heap heapType).1 == .global && (RegionRecord.heap heapType).2) =
        (heapType == some 0) := by
    unfold RegionRecord.heap
    split <;> simp_all
  exact heap (bank.2.word? "heap_type")

theorem isFrom_ofProperties (base : UInt32) (cache : Numbered × Properties) :
    (CacheRecord.ofProperties cache.2).isFrom base = ofSimds base cache := by
  unfold CacheRecord.isFrom CacheRecord.ofProperties ofSimds
  cases (cache.2.word? "processor_id_low" : Option UInt32) <;> rfl

/-- A segment is the one for a heap type: three of them mean global memory, two others have
    segments of their own, and whatever else stands there, or nothing, is unknown. -/
structure IsSegmentOf (segment : Segment) (heapType : Option UInt32) : Prop where
  global : segment = .global ↔ heapType = some 0 ∨ heapType = some 1 ∨ heapType = some 2
  group : segment = .group ↔ heapType = some 4
  priv : segment = .priv ↔ heapType = some 5
  unknown : segment = .unknown ↔ ∀ known ∈ [0, 1, 2, 4, 5], heapType ≠ some known

theorem heap_isSegmentOf (heapType : Option UInt32) :
    IsSegmentOf (RegionRecord.heap heapType).1 heapType := by
  unfold RegionRecord.heap
  split <;> constructor <;> simp_all

/-- An agent of a class, with regions for some banks and others after them, and with some
    caches, all in their order. -/
structure AgentRecord.Holds (agent : AgentRecord) (deviceClass : DeviceClass)
    (banks caches : List (Numbered × Properties)) (besides : List RegionRecord) : Prop where
  deviceClass : agent.deviceClass = some deviceClass
  regions : agent.regions = banks.map (fun bank => .ofBank bank.2) ++ besides
  caches : agent.caches = caches.map (fun cache => .ofProperties cache.2)

/-- The region for the local memory of a GPU, if its size is a number. -/
def Properties.localMemory (properties : Properties) : List RegionRecord :=
  ((properties.word? "lds_size_in_kb").map RegionRecord.localMemory).toList

namespace Source

variable {source : Source} {entry : Numbered} {nodeId : UInt32} {path : String}
  {properties : Properties}

theorem cpuAgent_holds (banks caches : List (Numbered × Properties)) :
    (source.cpuAgent nodeId path properties (banks.map (fun bank => .ofBank bank.2))
      (caches.map (fun cache => .ofProperties cache.2))).Holds .cpu banks caches [] :=
  ⟨rfl, (List.append_nil _).symm, rfl⟩

theorem gpuAgent_holds (banks caches : List (Numbered × Properties)) :
    (source.gpuAgent nodeId properties (banks.map (fun bank => .ofBank bank.2))
      (caches.map (fun cache => .ofProperties cache.2))).Holds .gpu banks caches
        properties.localMemory :=
  ⟨rfl, rfl, rfl⟩

section NodeAgents

variable (source nodeId path)

theorem nodeAgents_of_cores (cores : 0 < properties.count "cpu_cores_count")
    (noSimds : ¬0 < properties.count "simd_count") :
    ∃ cpu, source.nodeAgents nodeId path properties = [cpu] ∧
      cpu.Holds .cpu (readable source.files (Path.join path "mem_banks"))
        (readable source.files (Path.join path "caches")) [] := by
  unfold nodeAgents
  rw [objects_eq, objects_eq, if_neg (fun both => noSimds both.2), if_pos cores]
  exact ⟨_, rfl, cpuAgent_holds _ _⟩

theorem nodeAgents_of_simds (noCores : ¬0 < properties.count "cpu_cores_count")
    (simds : 0 < properties.count "simd_count") :
    ∃ gpu, source.nodeAgents nodeId path properties = [gpu] ∧
      gpu.Holds .gpu (readable source.files (Path.join path "mem_banks"))
        (readable source.files (Path.join path "caches")) properties.localMemory := by
  unfold nodeAgents
  rw [objects_eq, objects_eq, if_neg (fun both => noCores both.1), if_neg noCores, if_pos simds]
  exact ⟨_, rfl, gpuAgent_holds _ _⟩

theorem nodeAgents_of_both (cores : 0 < properties.count "cpu_cores_count")
    (simds : 0 < properties.count "simd_count") :
    let banks := readable source.files (Path.join path "mem_banks")
    let caches := readable source.files (Path.join path "caches")
    let fromSimds := ofSimds (properties.count "simd_id_base")
    ∃ cpu gpu, source.nodeAgents nodeId path properties = [cpu, gpu] ∧
      cpu.Holds .cpu (banks.filter ofHost) (caches.filter (!fromSimds ·)) [] ∧
      gpu.Holds .gpu (banks.filter (!ofHost ·)) (caches.filter fromSimds)
        properties.localMemory := by
  intro banks caches fromSimds
  unfold nodeAgents
  rw [objects_eq, objects_eq, if_pos ⟨cores, simds⟩]
  simp only [List.filter_map, Function.comp_def, isHostMemory_ofBank, isFrom_ofProperties]
  exact ⟨_, _, rfl, cpuAgent_holds _ _, gpuAgent_holds _ _⟩

theorem nodeAgents_of_neither (noCores : ¬0 < properties.count "cpu_cores_count")
    (noSimds : ¬0 < properties.count "simd_count") :
    source.nodeAgents nodeId path properties = [] := by
  unfold nodeAgents
  rw [if_neg (fun both => noCores both.1), if_neg noCores, if_neg noSimds]

/-- Whether a node has a CPU depends on its cores alone, and whether it has a GPU on its SIMDs. -/
theorem nodeAgents_eq (properties : Properties) :
    ∃ cpuRegions cpuCaches gpuRegions gpuCaches,
      source.nodeAgents nodeId path properties =
        (if 0 < properties.count "cpu_cores_count" then
          [source.cpuAgent nodeId path properties cpuRegions cpuCaches] else []) ++
        if 0 < properties.count "simd_count" then
          [source.gpuAgent nodeId properties gpuRegions gpuCaches] else [] := by
  unfold nodeAgents
  by_cases cores : 0 < properties.count "cpu_cores_count" <;>
    by_cases simds : 0 < properties.count "simd_count"
  · simp only [cores, simds, and_self, if_true]
    exact ⟨_, _, _, _, rfl⟩
  · simp only [cores, simds, and_false, if_true, if_false]
    exact ⟨_, _, [], [], rfl⟩
  · simp only [cores, simds, false_and, if_true, if_false]
    exact ⟨[], [], _, _, rfl⟩
  · simp only [cores, simds, false_and, if_false]
    exact ⟨[], [], [], [], rfl⟩

/-- Of each class a node has the one agent that its properties count, or none. -/
theorem nodeAgents_filter (properties : Properties) (deviceClass : DeviceClass) :
    ∃ regions caches,
      (source.nodeAgents nodeId path properties).filter (·.deviceClass == some deviceClass) =
        match deviceClass with
        | .cpu =>
            if 0 < properties.count "cpu_cores_count" then
              [source.cpuAgent nodeId path properties regions caches] else []
        | .gpu =>
            if 0 < properties.count "simd_count" then
              [source.gpuAgent nodeId properties regions caches] else []
        | .other => [] := by
  obtain ⟨cpuRegions, cpuCaches, gpuRegions, gpuCaches, agents⟩ :=
    nodeAgents_eq source nodeId path properties
  rw [agents, List.filter_append]
  cases deviceClass with
  | cpu =>
      refine ⟨cpuRegions, cpuCaches, ?_⟩
      split <;> split <;> rfl
  | gpu =>
      refine ⟨gpuRegions, gpuCaches, ?_⟩
      split <;> split <;> rfl
  | other =>
      refine ⟨[], [], ?_⟩
      split <;> split <;> rfl

theorem nodeAgents_classes (properties : Properties) :
    (source.nodeAgents nodeId path properties).map (·.deviceClass) =
      (if 0 < properties.count "cpu_cores_count" then [some .cpu] else []) ++
        if 0 < properties.count "simd_count" then [some .gpu] else [] := by
  by_cases cores : 0 < properties.count "cpu_cores_count" <;>
    by_cases simds : 0 < properties.count "simd_count"
  · obtain ⟨cpu, gpu, agents, cpuHolds, gpuHolds⟩ :=
      nodeAgents_of_both source nodeId path cores simds
    simp [agents, cores, simds, cpuHolds.deviceClass, gpuHolds.deviceClass]
  · obtain ⟨cpu, agents, holds⟩ := nodeAgents_of_cores source nodeId path cores simds
    simp [agents, cores, simds, holds.deviceClass]
  · obtain ⟨gpu, agents, holds⟩ := nodeAgents_of_simds source nodeId path cores simds
    simp [agents, cores, simds, holds.deviceClass]
  · simp [nodeAgents_of_neither source nodeId path cores simds, cores, simds]

/-- The regions and caches of the agents of a node, whichever agent has them. -/
theorem nodeAgents_objects_perm
    (computes : 0 < properties.count "cpu_cores_count" ∨ 0 < properties.count "simd_count") :
    ((source.nodeAgents nodeId path properties).flatMap (·.regions)).Perm
        ((readable source.files (Path.join path "mem_banks")).map
            (fun bank => RegionRecord.ofBank bank.2) ++
          if 0 < properties.count "simd_count" then properties.localMemory else []) ∧
      ((source.nodeAgents nodeId path properties).flatMap (·.caches)).Perm
        ((readable source.files (Path.join path "caches")).map
          (fun cache => CacheRecord.ofProperties cache.2)) := by
  by_cases simds : 0 < properties.count "simd_count"
  · rw [if_pos simds]
    by_cases cores : 0 < properties.count "cpu_cores_count"
    · obtain ⟨cpu, gpu, agents, cpuHolds, gpuHolds⟩ :=
        nodeAgents_of_both source nodeId path cores simds
      simp only [agents, List.flatMap_cons, List.flatMap_nil, List.append_nil, cpuHolds.regions,
        gpuHolds.regions, cpuHolds.caches, gpuHolds.caches, ← List.append_assoc, ← List.map_append]
      exact ⟨((List.filter_append_perm _ _).map _).append_right _,
        (List.perm_append_comm.trans (List.filter_append_perm _ _)).map _⟩
    · obtain ⟨gpu, agents, holds⟩ := nodeAgents_of_simds source nodeId path cores simds
      simp [agents, holds.regions, holds.caches]
  · obtain ⟨cpu, agents, holds⟩ :=
      nodeAgents_of_cores source nodeId path (computes.resolve_right simds) simds
    simp [agents, holds.regions, holds.caches, if_neg simds]

end NodeAgents

/-- Each readable bank and cache of a node that computes goes to one of its agents, and each
    agent keeps their order. A CPU or GPU that is alone has them all. Where both share the
    node, the CPU has the host memory and the caches below the first SIMD, and the GPU has
    the others. Only the local memory of the GPU stands for no bank, and comes last. -/
theorem node_shares_out_objects
    (read : Properties.read source.files
      (Path.join (Path.join source.locations.nodes entry.name) "properties") = .ok properties)
    (computes : 0 < properties.count "cpu_cores_count" ∨ 0 < properties.count "simd_count") :
    let bankPath := Path.join (Path.join source.locations.nodes entry.name) "mem_banks"
    let cachePath := Path.join (Path.join source.locations.nodes entry.name) "caches"
    let banks := readable source.files bankPath
    let caches := readable source.files cachePath
    let hasCores := 0 < properties.count "cpu_cores_count"
    let hasSimds := 0 < properties.count "simd_count"
    let fromSimds := ofSimds (properties.count "simd_id_base")
    ListsReadable source.files bankPath banks ∧ ListsReadable source.files cachePath caches ∧
      (¬hasSimds → ∃ cpu, source.node entry = [cpu] ∧ cpu.Holds .cpu banks caches []) ∧
      (¬hasCores → ∃ gpu, source.node entry = [gpu] ∧
        gpu.Holds .gpu banks caches properties.localMemory) ∧
      (hasCores → hasSimds → ∃ cpu gpu, source.node entry = [cpu, gpu] ∧
        cpu.Holds .cpu (banks.filter ofHost) (caches.filter (!fromSimds ·)) [] ∧
        gpu.Holds .gpu (banks.filter (!ofHost ·)) (caches.filter fromSimds)
          properties.localMemory) ∧
      ((source.node entry).flatMap (·.regions)).Perm
        (banks.map (fun bank => .ofBank bank.2) ++
          if hasSimds then properties.localMemory else []) ∧
      ((source.node entry).flatMap (·.caches)).Perm
        (caches.map (fun cache => .ofProperties cache.2)) ∧
      (∀ bank ∈ banks,
        IsSegmentOf (RegionRecord.ofBank bank.2).segment (bank.2.word? "heap_type")) ∧
      ∀ kilobytes : Option UInt64, properties.word? "lds_size_in_kb" = kilobytes →
        properties.localMemory =
          (kilobytes.map fun amount => ⟨.group, Word.times? amount 1024, false⟩).toList := by
  intro bankPath cachePath banks caches hasCores hasSimds fromSimds
  obtain ⟨regions, cachesKept⟩ := nodeAgents_objects_perm source entry.number
    (Path.join source.locations.nodes entry.name) computes
  rw [node_of_readable read]
  refine ⟨listsReadable _ _, listsReadable _ _, fun noSimds => ?_, fun noCores => ?_,
    nodeAgents_of_both _ _ _, regions, cachesKept, fun bank _ => heap_isSegmentOf _, ?_⟩
  · exact nodeAgents_of_cores _ _ _ (computes.resolve_right noSimds) noSimds
  · exact nodeAgents_of_simds _ _ _ noCores (computes.resolve_left noCores)
  · rintro _ rfl
    rfl

/-- A node with a CPU and a GPU, whose caches are those of a processor below the first SIMD,
    of an unnamed one and of the first SIMD itself. -/
def sharedNode : FileTree :=
  let objects (files : List String) : FileTree :=
    .directory (files.mapIdx fun number file =>
      (Text.Numeral.decimal number, .directory [("properties", .file (some file))]))
  .directory [("topology", .directory [("nodes", .directory [("0", .directory [
    ("properties", .file (some
      "cpu_cores_count 8\nsimd_count 4\nsimd_id_base 16\nlds_size_in_kb 64\n")),
    ("mem_banks", objects ["heap_type 1\n", "heap_type 0\n", "heap_type host\n"]),
    ("caches", objects ["processor_id_low 3\n", "level 2\n", "processor_id_low 16\n"])])])])]

theorem sharedNode_shared_out :
    let source : Source :=
      .ofFiles sharedNode { Locations.ofEnvironment [] with topologyRoot := "/topology" }
    ∃ cpu gpu, source.node ⟨0, "0"⟩ = [cpu, gpu] ∧
      cpu.regions.map (·.segment) = [.global] ∧
      gpu.regions.map (·.segment) = [.global, .unknown, .group] ∧
      cpu.caches.map (·.firstProcessor) = [some 3, none] ∧
      gpu.caches.map (·.firstProcessor) = [some 16] := by
  intro source
  let text := "cpu_cores_count 8\nsimd_count 4\nsimd_id_base 16\nlds_size_in_kb 64\n"
  have stored : source.files.readText
      (Path.join (Path.join source.locations.nodes "0") "properties") = .ok text := by
    decide +kernel
  have read : Properties.read source.files
      (Path.join (Path.join source.locations.nodes "0") "properties") = .ok (.parse text) := by
    rw [Properties.read, stored]
  obtain ⟨_, _, _, _, both, _⟩ := @node_shares_out_objects source ⟨0, "0"⟩ _ read (.inl (by decide))
  obtain ⟨cpu, gpu, agents, cpuHolds, gpuHolds⟩ := both (by decide) (by decide)
  refine ⟨cpu, gpu, agents, ?_⟩
  rw [cpuHolds.regions, gpuHolds.regions, cpuHolds.caches, gpuHolds.caches]
  decide +kernel

end Source

end ComputeTopology.Kfd
