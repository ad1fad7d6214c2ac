import ComputeTopology.Kfd.Snapshot
import ComputeTopology.Proofs.FileTree.Places

namespace ComputeTopology.Kfd

open FileTree

variable {left right : FileTree} {locations : Locations} {path : String}

/-- The files outside of the topology look alike. -/
structure SurroundingsAlike (left right : FileTree) (locations : Locations) : Prop where
  cpuInfo : LooksAlike left right locations.cpuInfo
  productTables : ∀ table ∈ locations.productTables, LooksAlike left right table
  revisions : ∀ domain location, LooksAlike left right (locations.pciRevision domain location)

/-- The numbered directories at a path and the properties of each look alike. -/
structure ObjectsAlike (left right : FileTree) (path : String) : Prop where
  listed : LooksAlike left right path
  properties : ∀ entry ∈ left.numberedEntries path,
    LooksAlike left right (Path.join (Path.join path entry.name) "properties")

/-- Everything that is read of the node at a path looks alike. -/
structure NodeAlike (left right : FileTree) (path : String) : Prop where
  properties : LooksAlike left right (Path.join path "properties")
  name : LooksAlike left right (Path.join path "name")
  banks : ObjectsAlike left right (Path.join path "mem_banks")
  caches : ObjectsAlike left right (Path.join path "caches")

/-- The root of the topology, its two files and the listing of its nodes look alike. -/
structure FrameAlike (left right : FileTree) (locations : Locations) : Prop where
  root : LooksAlike left right locations.topologyRoot
  systemProperties : LooksAlike left right locations.systemProperties
  generationId : LooksAlike left right locations.generationId
  nodes : LooksAlike left right locations.nodes

theorem place_nodes (locations : Locations) :
    Path.place locations.nodes = Path.place locations.topologyRoot ++ ["nodes"] :=
  Path.place_join (by decide)

theorem plain_of_holdsNumbered {entry : Numbered} (listed : left.HoldsNumbered path entry) :
    Path.Plain entry.name := by
  obtain ⟨_, _, _, _, numeral⟩ := listed
  exact (Path.plain_of_word? numeral).1

theorem plain_of_mem_numberedEntries {entry : Numbered} (member : entry ∈ left.numberedEntries path) :
    Path.Plain entry.name :=
  plain_of_holdsNumbered (mem_numberedEntries_iff.mp member)

theorem objectsAlike_of_followed (followed : FollowedAlike left right path)
    (inside : ∀ entry ∈ left.numberedEntries path,
      SameOutline left right (Path.place path ++ [entry.name]) ∧
        SameOutline left right (Path.place path ++ [entry.name, "properties"])) :
    ObjectsAlike left right path where
  listed := followed.looksAlike
  properties := by
    intro entry member
    have plain := plain_of_mem_numberedEntries member
    obtain ⟨directory, properties⟩ := inside entry member
    refine ((followed.join plain directory).join (by decide) ?_).looksAlike
    rwa [Path.place_join plain, List.append_assoc]

/-- The places in the directory of a node that are read, after the names that lead there. -/
inductive NodePlace (files : FileTree) (path : String) : List String → Prop
  | directory : NodePlace files path []
  | own {name} : name ∈ ["properties", "name", "mem_banks", "caches"] → NodePlace files path [name]
  | object {listing} {entry : Numbered} : listing ∈ ["mem_banks", "caches"] →
      entry ∈ files.numberedEntries (Path.join path listing) →
        NodePlace files path [listing, entry.name]
  | properties {listing} {entry : Numbered} : listing ∈ ["mem_banks", "caches"] →
      entry ∈ files.numberedEntries (Path.join path listing) →
        NodePlace files path [listing, entry.name, "properties"]

theorem nodeAlike_of_followed {name : String} (followed : FollowedAlike left right path)
    (plain : Path.Plain name)
    (inside : ∀ rest, NodePlace left (Path.join path name) rest →
      SameOutline left right (Path.place path ++ name :: rest)) :
    NodeAlike left right (Path.join path name) := by
  have within (rest : List String) (read : NodePlace left (Path.join path name) rest) :
      SameOutline left right (Path.place (Path.join path name) ++ rest) := by
    rw [Path.place_join plain, List.append_assoc]
    exact inside rest read
  have directory : FollowedAlike left right (Path.join path name) :=
    followed.join plain (inside [] .directory)
  have own {file : String} (plain : Path.Plain file)
      (read : file ∈ ["properties", "name", "mem_banks", "caches"]) :
      FollowedAlike left right (Path.join (Path.join path name) file) :=
    directory.join plain (within [file] (.own read))
  have objects {listing : String} (plain : Path.Plain listing)
      (read : listing ∈ ["mem_banks", "caches"]) :
      ObjectsAlike left right (Path.join (Path.join path name) listing) := by
    refine objectsAlike_of_followed (own plain (by simp at read ⊢; tauto)) fun entry member => ?_
    rw [Path.place_join plain, List.append_assoc, List.append_assoc]
    exact ⟨within _ (.object read member), within _ (.properties read member)⟩
  exact {
    properties := (own (by decide) (by simp)).looksAlike
    name := (own (by decide) (by simp)).looksAlike
    banks := objects (by decide) (by simp)
    caches := objects (by decide) (by simp) }

theorem read_alike (alike : LooksAlike left right path) :
    Properties.read left path = Properties.read right path := by
  rw [Properties.read, Properties.read, alike.readText]

theorem readPciRevision?_alike (alike : LooksAlike left right path) :
    readPciRevision? left path = readPciRevision? right path := by
  rw [readPciRevision?, readPciRevision?, alike.readText]

namespace Source

variable {source : Source} {properties : Properties} {nodeId : UInt32}

theorem ofFiles_alike (surroundings : SurroundingsAlike left right locations) :
    ofFiles right locations = { ofFiles left locations with files := right } := by
  have cpuModels : CpuModels.load left locations.cpuInfo =
      CpuModels.load right locations.cpuInfo := by
    rw [CpuModels.load, CpuModels.load, surroundings.cpuInfo.readText]
  have productNames : ProductNames.load left locations.productTables =
      ProductNames.load right locations.productTables := by
    refine congrArg ProductNames.mk (List.flatMap_congr fun table member => ?_)
    rw [ProductNames.rowsAt, ProductNames.rowsAt,
      (surroundings.productTables table member).readText]
  simp only [ofFiles, cpuModels, productNames]

theorem objects_alike {α : Type} (alike : ObjectsAlike source.files right path)
    (ofProperties : Properties → α) :
    source.objects path ofProperties = { source with files := right }.objects path ofProperties := by
  unfold objects
  rw [← alike.listed.numberedEntries]
  refine List.filterMap_congr fun entry member => ?_
  rw [read_alike (alike.properties entry member)]

theorem cpuAgent_alike (alike : NodeAlike source.files right path) :
    source.cpuAgent nodeId path = { source with files := right }.cpuAgent nodeId path := by
  funext properties regions caches
  simp only [cpuAgent, alike.name.readTrimmed]

theorem productName?_alike
    (revisions : ∀ domain location,
      LooksAlike source.files right (source.locations.pciRevision domain location)) :
    source.productName? = { source with files := right }.productName? := by
  have revision (domain location : UInt32) :
      readPciRevision? source.files (source.locations.pciRevision domain location) =
        readPciRevision? right (source.locations.pciRevision domain location) :=
    readPciRevision?_alike (revisions domain location)
  funext chipId locationId domain
  simp only [productName?, revision]

theorem gpuAgent_alike
    (revisions : ∀ domain location,
      LooksAlike source.files right (source.locations.pciRevision domain location)) :
    source.gpuAgent = { source with files := right }.gpuAgent := by
  funext nodeId properties regions caches
  unfold gpuAgent
  rw [productName?_alike revisions]
  rfl

theorem nodeAgents_alike
    (revisions : ∀ domain location,
      LooksAlike source.files right (source.locations.pciRevision domain location))
    (alike : NodeAlike source.files right path) :
    source.nodeAgents nodeId path properties =
      { source with files := right }.nodeAgents nodeId path properties := by
  unfold nodeAgents
  rw [objects_alike alike.banks, objects_alike alike.caches, cpuAgent_alike alike,
    gpuAgent_alike revisions]

theorem node_alike {entry : Numbered}
    (revisions : ∀ domain location,
      LooksAlike source.files right (source.locations.pciRevision domain location))
    (alike : NodeAlike source.files right (Path.join source.locations.nodes entry.name)) :
    source.node entry = { source with files := right }.node entry := by
  unfold node
  dsimp only
  rw [read_alike alike.properties]
  cases Properties.read right
      (Path.join (Path.join source.locations.nodes entry.name) "properties") with
  | error failure => rfl
  | ok properties => exact nodeAgents_alike revisions alike

theorem ofFiles_node_alike {entry : Numbered} (surroundings : SurroundingsAlike left right locations)
    (alike : NodeAlike left right (Path.join locations.nodes entry.name)) :
    (ofFiles right locations).node entry = (ofFiles left locations).node entry := by
  have same : (ofFiles left locations).node entry =
      { ofFiles left locations with files := right }.node entry :=
    node_alike surroundings.revisions alike
  rw [ofFiles_alike surroundings, same]

/-- All agents of a node bear its number. -/
theorem nodeId_of_mem_node {entry : Numbered} {agent : AgentRecord}
    (member : agent ∈ source.node entry) : agent.nodeId = entry.number := by
  unfold node nodeAgents at member
  dsimp only at member
  split at member
  · rw [List.mem_singleton.mp member]
    rfl
  · split at member
    · rcases List.mem_pair.mp member with rfl | rfl <;> rfl
    split at member
    · rw [List.mem_singleton.mp member]
      rfl
    split at member
    · rw [List.mem_singleton.mp member]
      rfl
    · contradiction

end Source

/-- Within alike frames a topology is loaded or fails to alike, except for the agents. -/
theorem load_framed (frame : FrameAlike left right locations) :
    Snapshot.load right locations = (Snapshot.load left locations).map fun snapshot =>
      { snapshot with
        agents := (left.numberedEntries locations.nodes).flatMap
          (Source.ofFiles right locations).node } := by
  have systemRecord (properties : Properties) (count : Nat) :
      Snapshot.systemRecord left locations properties count =
        Snapshot.systemRecord right locations properties count := by
    rw [Snapshot.systemRecord, Snapshot.systemRecord, frame.generationId.readTrimmed]
  unfold Snapshot.load
  rw [← frame.root.isDirectory, ← read_alike frame.systemProperties, ← frame.nodes.numberedEntries]
  split
  · split
    · rfl
    · simp only [systemRecord, Except.map]
  · rfl

end ComputeTopology.Kfd
