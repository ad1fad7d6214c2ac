import ComputeTopology.Proofs.Kfd.Agents
import ComputeTopology.Proofs.Kfd.Outcome
import ComputeTopology.Proofs.ReportText.Sections

namespace ComputeTopology

/-- The bytes of so many kilobytes fit a width if they are fewer than this, and else there is
    no product. -/
def KilobytesFit (α : Type) [Word α] [OfNat α 1024] (limit : Nat) : Prop :=
  ∀ amount : α, (Word.times? amount 1024).map Word.toNat =
    if Word.toNat amount < limit then some (Word.toNat amount * 1024) else none

theorem kilobytesFit {α : Type} [Word α] [OfNat α 1024] {limit : Nat}
    (factor : Word.toNat (1024 : α) = 1024) (width : Word.size α = limit * 1024) :
    KilobytesFit α limit := by
  intro amount
  rw [Word.times?, Word.toNat_ofNat?, factor, width]
  simp only [Nat.mul_lt_mul_right (by decide : 0 < 1024)]

theorem kilobytesFit_uint32 : KilobytesFit UInt32 (2 ^ 22) :=
  kilobytesFit rfl rfl

theorem kilobytesFit_uint64 : KilobytesFit UInt64 (2 ^ 54) :=
  kilobytesFit rfl rfl

namespace ReportText

open Text.Numeral

/-- How a size in bytes shows in kilobytes, with a text of its own for no bytes. -/
def bytesText (zero : String) : Option Nat → String
  | none => unknown
  | some bytes => if bytes = 0 then zero else decimal (bytes / 1024) ++ " KB"

/-- How a size shows that the kernel gives in kilobytes, if it gives one. It is known below a
    limit only. -/
def kilobytesText (zero : String) (limit : Nat) : Option Nat → String
  | none => "Unknown"
  | some amount =>
      if amount = 0 then zero else if amount < limit then decimal amount ++ " KB" else "Unknown"

/-- A size comes back from its bytes. -/
theorem bytesText_of_kilobytes (zero : String) {limit : Nat} (positive : 0 < limit)
    (given : Option Nat) :
    bytesText zero (given.bind fun amount => if amount < limit then some (amount * 1024) else none) =
      kilobytesText zero limit given := by
  cases given with
  | none => rfl
  | some amount =>
      rw [Option.bind_some, kilobytesText]
      by_cases none_given : amount = 0
      · rw [none_given, if_pos positive, if_pos rfl]
        rfl
      · rw [if_neg none_given]
        split
        · rw [bytesText, if_neg (by omega), Nat.mul_div_cancel _ (by decide)]
        · rfl

theorem cacheSize_eq (cache : Cache) :
    cacheSize cache = bytesText "Unknown (Reported 0)" (cache.sizeBytes.map UInt32.toNat) := by
  unfold cacheSize Cache.reportedZero
  cases cache.sizeBytes with
  | none => rfl
  | some bytes =>
      simp only [Option.map_some, bytesText, beq_iff_eq, Option.some.injEq, ← UInt32.toNat_inj,
        UInt32.toNat_zero]
      rfl

theorem cacheLine_eq (cache : Cache) :
    cacheLine cache =
      "      L" ++ orElse "?" (decimal ·.toNat) cache.level ++ " Size: " ++ cacheSize cache ++
        orElse "" (", Assoc: " ++ decimal ·.toNat) cache.associativity := by
  unfold cacheLine
  cases cache.associativity with
  | none => exact String.append_empty.symm
  | some ways => exact String.append_assoc

theorem regionSize_eq (region : MemoryRegion) :
    regionSize 1024 "KB" region = bytesText "Unknown" (region.sizeBytes.map UInt64.toNat) := by
  unfold regionSize MemoryRegion.knownSize
  cases region.sizeBytes with
  | none => rfl
  | some bytes =>
      by_cases zero : bytes = 0
      · rw [zero]
        rfl
      · have counts : bytes.toNat ≠ 0 := fun none => zero (UInt64.toNat_inj.mp none)
        rw [Option.filter_some, if_pos (bne_iff_ne.mpr zero), Option.map_some, bytesText,
          if_neg counts]
        exact String.append_assoc

end ReportText

namespace Kfd

open FileTree (Numbered)
open ReportText Text.Numeral

section Lines

/-- The line for a cache with these properties. -/
def Properties.cacheLine (properties : Properties) : String :=
  "      L" ++ orElse "?" (decimal ·.toNat) (properties.word? "level" : Option UInt8) ++ " Size: " ++
    kilobytesText "Unknown (Reported 0)" (2 ^ 22)
      ((properties.word? "size" : Option UInt32).map UInt32.toNat) ++
    orElse "" (", Assoc: " ++ decimal ·.toNat) (properties.word? "association" : Option UInt32)

/-- The line for local memory of so many kilobytes. -/
def localMemoryLine (amount : UInt64) : String :=
  "          LDS (Group)          Size: " ++
    kilobytesText "Unknown" (2 ^ 54) (some amount.toNat)

theorem cacheLine_described (properties : Properties) :
    cacheLine (CacheRecord.ofProperties properties).capture.described = properties.cacheLine := by
  have bytes : (CacheRecord.ofProperties properties).size.map UInt32.toNat =
      ((properties.word? "size" : Option UInt32).map UInt32.toNat).bind fun amount =>
        if amount < 2 ^ 22 then some (amount * 1024) else none := by
    rw [CacheRecord.ofProperties, Option.map_bind, Option.bind_map]
    exact congrArg _ (funext kilobytesFit_uint32)
  have size : cacheSize (CacheRecord.ofProperties properties).capture.described =
      kilobytesText "Unknown (Reported 0)" (2 ^ 22)
        ((properties.word? "size" : Option UInt32).map UInt32.toNat) := by
    rw [cacheSize_eq, ← bytesText_of_kilobytes _ (by simp), ← bytes]
    rfl
  rw [cacheLine_eq, size]
  rfl

/-- The region of a local memory. -/
def localRegion (amount : UInt64) : MemoryRegion where
  segment := .group
  sizeBytes := Word.times? amount 1024
  hostAccessible := some false
  globalIndex := none

theorem regionLine_localRegion (amount : UInt64) :
    regionLine (localRegion amount) = localMemoryLine amount := by
  have bytes : (localRegion amount).sizeBytes.map UInt64.toNat =
      (some amount.toNat).bind fun amount =>
        if amount < 2 ^ 54 then some (amount * 1024) else none :=
    kilobytesFit_uint64 amount
  have size : regionSize 1024 "KB" (localRegion amount) =
      kilobytesText "Unknown" (2 ^ 54) (some amount.toNat) := by
    rw [regionSize_eq, bytes, bytesText_of_kilobytes _ (by simp)]
  have front : "          " ++ padRight 20 "LDS (Group)" ++ " Size: " =
      "          LDS (Group)          Size: " := by
    decide
  calc
    regionLine (localRegion amount)
    _ = "          " ++ padRight 20 "LDS (Group)" ++ " Size: " ++
          regionSize 1024 "KB" (localRegion amount) := rfl
    _ = localMemoryLine amount := congrArg₂ (· ++ ·) front size

theorem described?_localMemory (amount : UInt64) :
    (RegionRecord.localMemory amount).capture.described? = some (localRegion amount) := rfl

end Lines

section Handles

variable {driver : Driver}

theorem cache_of_known {handle : CacheHandle} {record : CacheRecord}
    (known : driver.cacheRecord handle = .ok record) :
    Survey.cache driver.queries handle = record.capture.described := by
  simp only [Survey.cache, Queries.cacheAs, Driver.queries, Driver.cache, known,
    Attribute.Answer.toOption_read_ofFact .u8 (fun _ => rfl),
    Attribute.Answer.toOption_read_ofFact .u32 (fun _ => rfl), CacheRecord.capture,
    Capture.Cache.described]

theorem region_of_localMemory {handle : RegionHandle} {amount : UInt64}
    (known : driver.regionRecord handle = .ok (.localMemory amount)) (counter : Survey.GlobalCounter) :
    Survey.region driver.queries handle counter = .ok (localRegion amount, counter) := by
  have segment : driver.queries.regionAs Segment handle .segment = .ok .group := by
    simp only [Queries.regionAs, Driver.queries, Driver.region, known, RegionRecord.localMemory]
    rfl
  have size : (driver.queries.regionAs UInt64 handle .size).toOption = Word.times? amount 1024 := by
    simp only [Queries.regionAs, Driver.queries, Driver.region, known, RegionRecord.localMemory,
      Attribute.Answer.toOption_read_ofFact .u64 (fun _ => rfl)]
  have host : (driver.queries.regionAs Bool handle .hostAccessible).toOption = some false := by
    simp only [Queries.regionAs, Driver.queries, Driver.region, known, RegionRecord.localMemory]
    rfl
  rw [Survey.region, segment]
  simp only [size, host, reduceCtorEq, if_false]
  rfl

end Handles

/-- What of a node is its CPU, or its GPU. -/
structure Share where
  node : Numbered × Properties
  deviceClass : DeviceClass

namespace Share

/-- The parts that the properties of a node count. -/
def ofNode (node : Numbered × Properties) : List Share :=
  (if 0 < node.2.count "cpu_cores_count" then [⟨node, .cpu⟩] else []) ++
    if 0 < node.2.count "simd_count" then [⟨node, .gpu⟩] else []

/-- The readable caches of a part, which has all of its node if it is the only one. -/
def caches (files : FileTree) (path : String) (share : Share) : List (Numbered × Properties) :=
  let properties := share.node.2
  let caches := readable files (Path.join (Path.join path share.node.1.name) "caches")
  if 0 < properties.count "cpu_cores_count" ∧ 0 < properties.count "simd_count" then
    caches.filter fun cache =>
      ofSimds (properties.count "simd_id_base") cache == (share.deviceClass == .gpu)
  else caches

section Caches

variable {files : FileTree} {path : String} {node : Numbered × Properties}

theorem caches_of_alone (deviceClass : DeviceClass)
    (alone : ¬(0 < node.2.count "cpu_cores_count" ∧ 0 < node.2.count "simd_count")) :
    caches files path ⟨node, deviceClass⟩ =
      readable files (Path.join (Path.join path node.1.name) "caches") :=
  if_neg alone

theorem caches_of_cpu
    (both : 0 < node.2.count "cpu_cores_count" ∧ 0 < node.2.count "simd_count") :
    caches files path ⟨node, .cpu⟩ =
      (readable files (Path.join (Path.join path node.1.name) "caches")).filter
        (!ofSimds (node.2.count "simd_id_base") ·) :=
  (if_pos both).trans (List.filter_congr fun _ _ => beq_false _)

theorem caches_of_gpu
    (both : 0 < node.2.count "cpu_cores_count" ∧ 0 < node.2.count "simd_count") :
    caches files path ⟨node, .gpu⟩ =
      (readable files (Path.join (Path.join path node.1.name) "caches")).filter
        (ofSimds (node.2.count "simd_id_base")) :=
  (if_pos both).trans (List.filter_congr fun _ _ => beq_true _)

end Caches

/-- A record has the caches of a part, and its local memory after all other regions. -/
structure KeptAs (files : FileTree) (path : String) (share : Share) (record : AgentRecord) :
    Prop where
  nodeId : record.nodeId = share.node.1.number
  deviceClass : record.deviceClass = some share.deviceClass
  caches : record.caches = (share.caches files path).map (fun cache => .ofProperties cache.2)
  localMemory : share.deviceClass = .gpu →
    ∃ banks, record.regions = banks ++ share.node.2.localMemory

/-- The section of a part has a line for each of its caches, and if the size of a local memory
    is given, its last line for a region is for that. -/
structure PrintedAs (files : FileTree) (path : String) (share : Share) (part : SectionLines) :
    Prop where
  head : ∃ name, part.head =
    " Node " ++ decimal share.node.1.number.toNat ++ " (" ++ name ++ ")"
  kind : part.kind.head? = some ("    Type:          " ++ share.deviceClass.label)
  caches : part.caches = (share.caches files path).map (fun cache => cache.2.cacheLine)
  localMemory : share.deviceClass = .gpu → ∀ amount,
    share.node.2.word? "lds_size_in_kb" = some amount →
      part.banks.getLast? = some (localMemoryLine amount)

end Share

/-- The parts of the nodes at a path that have readable properties. -/
def shares (files : FileTree) (path : String) : List Share :=
  (readable files path).flatMap Share.ofNode

section Nodes

variable {files : FileTree} {path : String} {share : Share} {record : AgentRecord}

theorem Share.keptAs_of_holds {banks : List (Numbered × Properties)} {besides : List RegionRecord}
    (nodeId : record.nodeId = share.node.1.number)
    (holds : record.Holds share.deviceClass banks (share.caches files path) besides)
    (localMemory : share.deviceClass = .gpu → besides = share.node.2.localMemory) :
    share.KeptAs files path record where
  nodeId
  deviceClass := holds.deviceClass
  caches := holds.caches
  localMemory isGpu := ⟨_, localMemory isGpu ▸ holds.regions⟩

theorem kept_of_readable {source : Source} {node : Numbered × Properties}
    (read : Properties.read source.files
      (Path.join (Path.join source.locations.nodes node.1.name) "properties") = .ok node.2) :
    List.Forall₂ (Share.KeptAs source.files source.locations.nodes) (Share.ofNode node)
      (source.node node.1) := by
  have number : ∀ agent ∈ source.node node.1, agent.nodeId = node.1.number :=
    fun _ => Source.nodeId_of_mem_node
  rw [Source.node_of_readable read] at number ⊢
  by_cases cores : 0 < node.2.count "cpu_cores_count" <;>
    by_cases simds : 0 < node.2.count "simd_count"
  · obtain ⟨cpu, gpu, agents, cpuHolds, gpuHolds⟩ := Source.nodeAgents_of_both source
      node.1.number (Path.join source.locations.nodes node.1.name) cores simds
    rw [← Share.caches_of_cpu ⟨cores, simds⟩] at cpuHolds
    rw [← Share.caches_of_gpu ⟨cores, simds⟩] at gpuHolds
    rw [agents] at number ⊢
    rw [Share.ofNode, if_pos cores, if_pos simds]
    exact .cons (Share.keptAs_of_holds (number cpu (by simp)) cpuHolds (by simp))
      (.cons (Share.keptAs_of_holds (number gpu (by simp)) gpuHolds fun _ => rfl) .nil)
  · obtain ⟨cpu, agents, holds⟩ := Source.nodeAgents_of_cores source
      node.1.number (Path.join source.locations.nodes node.1.name) cores simds
    rw [← Share.caches_of_alone .cpu (fun both => simds both.2)] at holds
    rw [agents] at number ⊢
    rw [Share.ofNode, if_pos cores, if_neg simds]
    exact .cons (Share.keptAs_of_holds (number cpu (by simp)) holds (by simp)) .nil
  · obtain ⟨gpu, agents, holds⟩ := Source.nodeAgents_of_simds source
      node.1.number (Path.join source.locations.nodes node.1.name) cores simds
    rw [← Share.caches_of_alone .gpu (fun both => cores both.1)] at holds
    rw [agents] at number ⊢
    rw [Share.ofNode, if_neg cores, if_pos simds]
    exact .cons (Share.keptAs_of_holds (number gpu (by simp)) holds fun _ => rfl) .nil
  · rw [Source.nodeAgents_of_neither source _ _ cores simds, Share.ofNode, if_neg cores,
      if_neg simds]
    exact .nil

/-- The agents with a class in a snapshot are the parts of the nodes, in order. -/
theorem kept_of_snapshot {files : FileTree} {locations : Locations} {snapshot : Snapshot}
    (loaded : Snapshot.load files locations = .ok snapshot) :
    List.Forall₂ (Share.KeptAs files locations.nodes) (shares files locations.nodes)
      (snapshot.agents.filter (·.deviceClass.isSome)) := by
  refine forall₂_parts loaded (fun _ => rfl) fun node read => ?_
  have kept := @kept_of_readable (.ofFiles files locations) node read
  rw [@Source.node_of_readable (.ofFiles files locations) _ _ read] at kept ⊢
  rwa [List.filter_eq_self.mpr (nodeAgents_classified _ _ _ _)]

theorem printed_of_kept (kept : share.KeptAs files path record) :
    ∃ agent, record.capture.described? = some agent ∧
      share.PrintedAs files path (.ofAgent agent) := by
  refine ⟨_, congrArg (Option.map _) kept.deviceClass, ?_, ?_, ?_, fun isGpu amount given => ?_⟩
  · rw [← kept.nodeId]
    exact ⟨_, rfl⟩
  · cases share.deviceClass <;> rfl
  · simp only [SectionLines.ofAgent, AgentRecord.capture, kept.caches, List.map_map,
      Function.comp_def, cacheLine_described]
  · obtain ⟨banks, regions⟩ := kept.localMemory isGpu
    have last : share.node.2.localMemory = [.localMemory amount] := by
      rw [Properties.localMemory, given]
      rfl
    have other : (localRegion amount).isGlobal = false := rfl
    simp only [SectionLines.ofAgent, AgentRecord.capture, regions, last, List.map_append,
      List.map_cons, List.map_nil, List.filterMap_append,
      List.filterMap_cons_some (described?_localMemory amount), List.filterMap_nil,
      Survey.numberFrom_concat other, List.getLast?_concat, regionLine_localRegion]

/-- The parts of the nodes are the agents of an inventory, with a section for each of them. -/
theorem printed_of_snapshot {locations : Locations} {snapshot : Snapshot}
    (loaded : Snapshot.load files locations = .ok snapshot) :
    List.Forall₂ (Share.PrintedAs files locations.nodes) (shares files locations.nodes)
      (snapshot.capture.inventory.agents.map .ofAgent) := by
  have related : Relator.LiftFun (Share.KeptAs files locations.nodes)
      (Option.Rel fun share agent => share.PrintedAs files locations.nodes (.ofAgent agent)) some
      (fun record => record.capture.described?) := by
    intro share record kept
    obtain ⟨agent, described, printed⟩ := printed_of_kept kept
    simp only [described]
    exact .some printed
  have passed : (snapshot.agents.filter (·.deviceClass.isSome)).filterMap
      (·.capture.described?) = snapshot.capture.inventory.agents := by
    rw [List.filterMap_filter, Capture.Topology.inventory, Snapshot.capture, List.filterMap_map]
    refine List.filterMap_congr fun record _ => ?_
    cases same : record.deviceClass <;>
      simp [Capture.Agent.described?, AgentRecord.capture, same]
  have printed := List.rel_filterMap related (kept_of_snapshot loaded)
  rw [List.filterMap_some, passed] at printed
  exact List.forall₂_map_right_iff.mpr printed

end Nodes

open Diagnostics

/-- Sizes that the kernel gives in kilobytes show as the same numbers. No product in between
    wraps, and a size whose bytes do not fit is not known. The agents with a class are the
    parts of the nodes. However a cache or a local memory is reached, it has the line for
    what the kernel gives, and as long as there are handles for everything, the report that a
    run writes if it succeeds has these lines in the sections of all parts, and a lenient run
    does succeed. -/
theorem kilobytes_come_back {files : FileTree} {locations : Locations} {driver : Driver}
    (started : Driver.start files locations = .ok driver) :
    KilobytesFit UInt32 (2 ^ 22) ∧ KilobytesFit UInt64 (2 ^ 54) ∧
      List.Forall₂ (Share.KeptAs files locations.nodes) (shares files locations.nodes)
        (driver.snapshot.agents.filter (·.deviceClass.isSome)) ∧
      (∀ handle properties, driver.cacheRecord handle = .ok (.ofProperties properties) →
        cacheLine (Survey.cache driver.queries handle) = properties.cacheLine) ∧
      (∀ handle amount counter, driver.regionRecord handle = .ok (.localMemory amount) →
        ∃ region, Survey.region driver.queries handle counter = .ok (region, counter) ∧
          regionLine region = localMemoryLine amount) ∧
      (driver.snapshot.capture.Addressable →
        ∃ inventory sections, Survey.inventory driver.queries .skipObject = .ok inventory ∧
          sections = inventory.agents.map SectionLines.ofAgent ∧
          List.Forall₂ (Share.PrintedAs files locations.nodes) (shares files locations.nodes)
            sections ∧
          (∀ sink, sink.room = none → sink.flushMessage = none →
            (run (Driver.start files locations) .skipObject sink).result = .ok ()) ∧
          ∀ policy sink, (run (Driver.start files locations) policy sink).result = .ok () →
            ∃ facts text, Survey.systemFacts driver.queries = .ok facts ∧
              (run (Driver.start files locations) policy sink).sink.received =
                sink.received ++ Sink.encode text ∧
              Prints text (headerLines facts) sections) := by
  cases loaded : Snapshot.load files locations with
  | error failure => simp [Driver.start, loaded] at started
  | ok snapshot =>
      obtain rfl : driver = { snapshot, initialized := true } := by
        simpa [Driver.start, loaded, eq_comm] using started
      refine ⟨kilobytesFit_uint32, kilobytesFit_uint64, kept_of_snapshot loaded,
        fun handle properties known => ?_, fun handle amount counter known => ?_, fun few => ?_⟩
      · rw [cache_of_known known, cacheLine_described]
      · exact ⟨_, region_of_localMemory known counter, regionLine_localRegion amount⟩
      · have lenient {holds : Prop} (strict : Survey.Policy.skipObject = .failFast) : holds :=
          absurd strict (by decide)
        refine ⟨snapshot.capture.inventory, _, ?_, rfl, printed_of_snapshot loaded,
          fun sink unlimited flushed => ?_, fun policy sink succeeded => ?_⟩
        · rw [inventory_driver (few_agents few), inventory_of_addressable few]
          exact Capture.Topology.settle_of_classified lenient _
        · exact (run_of_readable loaded few lenient unlimited flushed).1
        · obtain ⟨platform, facts, inventory, sameStart, known, surveyed, received⟩ :=
            delivered_of_ok succeeded
          cases started.symm.trans sameStart
          have settled := (inventory_driver (few_agents few) policy).symm.trans surveyed
          rw [Survey.Policy.settle_eq_ok_iff, inventory_of_addressable few] at settled
          obtain rfl := settled.1
          exact ⟨facts, _, known, received, prints_ofInventory facts _⟩

/-- A node with these properties and with caches of these. -/
def nodeWithCaches (properties : String) (caches : List String) : FileTree :=
  .directory [("properties", .file (some properties)),
    ("caches", .directory (caches.mapIdx fun number cache =>
      (decimal number, .directory [("properties", .file (some cache))])))]

/-- A node with a CPU and a GPU, whose caches are of a known size, of one that does not fit and of
    none, and a second GPU. Their local memories are on either side of the limit. -/
def sizedNodes : FileTree :=
  treeOfNodes [
    ("0", nodeWithCaches "cpu_cores_count 8\nsimd_count 4\nlds_size_in_kb 18014398509481983\n"
      ["level 1\nsize 4194303\nassociation 8\n", "size 4194304\n",
        "size 0\nprocessor_id_low 0\n"]),
    ("1", nodeWithCaches "simd_count 4\nlds_size_in_kb 18014398509481984\n" [])]

theorem lines_of_sizedNodes :
    let shown : List (String × List String × Option String) :=
      [("    Type:          CPU",
          ["      L1 Size: 4194303 KB, Assoc: 8", "      L? Size: Unknown"], none),
        ("    Type:          GPU", ["      L? Size: Unknown (Reported 0)"],
          some "          LDS (Group)          Size: 18014398509481983 KB"),
        ("    Type:          GPU", [], some "          LDS (Group)          Size: Unknown")]
    ∃ header text sections,
      (run (Driver.start sizedNodes rootLocations) .skipObject .unlimited).sink.received =
        Sink.encode text ∧
      Prints text header sections ∧
      List.Forall₂
        (fun (kind, cacheLines, last?) part => part.kind.head? = some kind ∧
          part.caches = cacheLines ∧ ∀ last ∈ last?, part.banks.getLast? = some last)
        shown sections := by
  intro shown
  let snapshot : Snapshot := {
    system := ⟨none, none, none, none, 2⟩
    agents := [
      { AgentRecord.ofNode 0 with
        deviceClass := some .cpu, computeUnits := some 8
        caches := [⟨some 1, some 4294966272, some 8, none⟩, ⟨none, none, none, none⟩] },
      { AgentRecord.ofNode 0 with
        deviceClass := some .gpu
        regions := [⟨.group, some 18446744073709550592, false⟩]
        caches := [⟨none, some 0, none, some 0⟩] },
      { AgentRecord.ofNode 1 with
        deviceClass := some .gpu
        regions := [⟨.group, none, false⟩] }] }
  have loaded : Snapshot.load sizedNodes rootLocations = .ok snapshot := by decide +kernel
  have started : Driver.start sizedNodes rootLocations = .ok { snapshot, initialized := true } := by
    rw [Driver.start, loaded]
  have few : snapshot.capture.Addressable := by
    simp [Capture.Topology.Addressable, Snapshot.capture, AgentRecord.capture, AgentRecord.ofNode,
      snapshot, UInt32.size]
  obtain ⟨_, _, _, _, _, report⟩ := kilobytes_come_back started
  obtain ⟨_, sections, _, _, parts, succeeds, delivers⟩ := report few
  obtain ⟨facts, text, _, received, prints⟩ := delivers .skipObject .unlimited (succeeds _ rfl rfl)
  refine ⟨headerLines facts, text, sections, received, prints, ?_⟩
  have expected : (shares sizedNodes rootLocations.nodes).map (fun share =>
      ("    Type:          " ++ share.deviceClass.label,
        (share.caches sizedNodes rootLocations.nodes).map (fun cache => cache.2.cacheLine),
        if share.deviceClass = .gpu then
          (share.node.2.word? "lds_size_in_kb").map localMemoryLine
        else none)) = shown := by
    decide +kernel
  rw [← expected, List.forall₂_map_left_iff]
  refine parts.imp fun share part printed => ⟨printed.kind, printed.caches, ?_⟩
  intro last given
  split at given
  · rename_i isGpu
    obtain ⟨amount, parsed, rfl⟩ := Option.map_eq_some_iff.mp given
    exact printed.localMemory isGpu amount parsed
  · exact absurd given (Option.not_mem_none last)

end Kfd

end ComputeTopology
