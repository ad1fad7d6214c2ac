import ComputeTopology.FileTree.Numbered
import ComputeTopology.Kfd.CpuModels
import ComputeTopology.Kfd.GfxVersion
import ComputeTopology.Kfd.Locations
import ComputeTopology.Kfd.ProductNames
import ComputeTopology.Kfd.Record

/-! # Nodes

A node of the kernel's topology becomes agents. One with processor cores is
a CPU, one with SIMDs a GPU. One with both becomes two agents that share its
banks and caches: host memory goes to the CPU, and caches of the SIMDs, known by
their processor numbers, to the GPU. A node whose properties cannot be read
becomes an agent without a class. Anything else that is missing or malformed
leaves its own figure unknown.
-/

namespace ComputeTopology.Kfd

/-- The file tree with everything that is read once for all nodes. -/
structure Source where
  files : FileTree
  locations : Locations
  cpuModels : CpuModels
  productNames : ProductNames

namespace Source

def ofFiles (files : FileTree) (locations : Locations) : Source where
  files
  locations
  cpuModels := .load files locations.cpuInfo
  productNames := .load files locations.productTables

/-- Read the objects in the numbered directories at a path. Those whose
    properties cannot be read are left out. -/
def objects {α : Type} (source : Source) (path : String) (ofProperties : Properties → α) : List α :=
  (source.files.numberedEntries path).filterMap fun entry =>
    match Properties.read source.files (Path.join (Path.join path entry.name) "properties") with
    | .ok properties => some (ofProperties properties)
    | .error _ => none

def cpuAgent (source : Source) (nodeId : UInt32) (path : String) (properties : Properties)
    (regions : List RegionRecord) (caches : List CacheRecord) : AgentRecord :=
  { AgentRecord.ofNode nodeId with
    deviceClass := some .cpu
    name := source.files.readTrimmed (Path.join path "name")
    productName := (properties.word? "cpu_core_id_base").bind source.cpuModels.model?
    computeUnits := properties.word? "cpu_cores_count"
    regions
    caches }

def gfxVersion? (source : Source) (nodeId : UInt32) (properties : Properties) : Option GfxVersion :=
  ((source.locations.overrides.forNode nodeId).bind GfxVersion.ofOverride?).or
    ((properties.word? "gfx_target_version").map GfxVersion.ofTarget)

/-- The product name of a device, whose revision stands with the PCI devices. -/
def productName? (source : Source) (chipId locationId domain : Option UInt32) : Option String := do
  let chip ← chipId
  let location ← locationId
  let revision ← readPciRevision? source.files
    (source.locations.pciRevision (domain.getD 0) location)
  source.productNames.name? chip revision

/-- The compute units that so many SIMDs make up. -/
def computeUnits? (simds : UInt32) (perUnit : Option UInt32) : Option UInt32 :=
  perUnit.bind (fun simdsPerUnit => if simdsPerUnit = 0 then none else some (simds / simdsPerUnit))

/-- The waves of a compute unit, if their number fits. -/
def maxWavesPerUnit? (perSimd perUnit : Option UInt32) : Option UInt32 := do
  let waves ← perSimd
  let simds ← perUnit
  Word.times? waves simds

def gpuAgent (source : Source) (nodeId : UInt32) (properties : Properties)
    (regions : List RegionRecord) (caches : List CacheRecord) : AgentRecord :=
  let chipId := properties.word? "device_id"
  let locationId := properties.word? "location_id"
  let domain := properties.word? "domain"
  let simdsPerUnit := properties.word? "simd_per_cu"
  let localMemory := (properties.word? "lds_size_in_kb").map RegionRecord.localMemory
  { nodeId
    deviceClass := some .gpu
    name := (source.gfxVersion? nodeId properties).map GfxVersion.name
    productName := source.productName? chipId locationId domain
    computeUnits := computeUnits? (properties.count "simd_count") simdsPerUnit
    simdsPerUnit
    maxWavesPerUnit := maxWavesPerUnit? (properties.word? "max_waves_per_simd") simdsPerUnit
    chipId
    locationId
    domain
    regions := regions ++ localMemory.toList
    caches }

/-- The agents of a node with readable properties, its CPU before its GPU. -/
def nodeAgents (source : Source) (nodeId : UInt32) (path : String) (properties : Properties) :
    List AgentRecord :=
  let regions := source.objects (Path.join path "mem_banks") RegionRecord.ofBank
  let caches := source.objects (Path.join path "caches") CacheRecord.ofProperties
  let hasCores := 0 < properties.count "cpu_cores_count"
  let hasSimds := 0 < properties.count "simd_count"
  if hasCores ∧ hasSimds then
    let ofSimds := CacheRecord.isFrom (properties.count "simd_id_base")
    [source.cpuAgent nodeId path properties (regions.filter (·.isHostMemory))
        (caches.filter (fun cache => !ofSimds cache)),
      source.gpuAgent nodeId properties (regions.filter (fun region => !region.isHostMemory))
        (caches.filter ofSimds)]
  else if hasCores then [source.cpuAgent nodeId path properties regions caches]
  else if hasSimds then [source.gpuAgent nodeId properties regions caches]
  else []

def node (source : Source) (entry : FileTree.Numbered) : List AgentRecord :=
  let path := Path.join source.locations.nodes entry.name
  match Properties.read source.files (Path.join path "properties") with
  | .error _ => [.ofNode entry.number]
  | .ok properties => source.nodeAgents entry.number path properties

end Source

end ComputeTopology.Kfd
