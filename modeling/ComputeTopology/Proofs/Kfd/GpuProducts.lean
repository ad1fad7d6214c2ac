import ComputeTopology.Proofs.Kfd.Figures
import ComputeTopology.Proofs.Kfd.ProductTables

namespace ComputeTopology.Kfd

open FileTree (Numbered LooksAlike)

section Revisions

/-- Apart from blanks at its ends, a text states a revision in hexadecimal, with or without `0x`
    in front. -/
def StatesRevision (text : String) (revision : UInt32) : Prop :=
  ∃ digits, (Text.trim text.toList = digits ∨ Text.trim text.toList = '0' :: 'x' :: digits) ∧
    Text.Numeral.Denotes 16 digits (Word.toNat revision)

theorem pciRevision?_eq_some_iff {text : String} {revision : UInt32} :
    pciRevision? text = some revision ↔ StatesRevision text revision := by
  unfold pciRevision? StatesRevision
  constructor
  · intro found
    split at found
    · rename_i digits whole
      exact ⟨digits, .inr whole, Text.Numeral.word?_eq_some_iff.mp found⟩
    · exact ⟨_, .inl rfl, Text.Numeral.word?_eq_some_iff.mp found⟩
  · intro ⟨digits, written, denotes⟩
    rcases written with whole | whole
    · rw [whole]
      split
      · -- A numeral has no letter like this.
        rename_i rest
        have unread : Text.Numeral.natural? 16 ('0' :: 'x' :: rest) = none := rfl
        rw [Text.Numeral.natural?_eq_some_iff.mpr denotes] at unread
        contradiction
      · exact Text.Numeral.word?_eq_some_iff.mpr denotes
    · rw [whole]
      exact Text.Numeral.word?_eq_some_iff.mpr denotes

end Revisions

section Products

/-- The product of a node's device has a name: its device number and its location are 32-bit
    numbers, the file of the device at this location and in this domain states a revision,
    and the first row for both among the tables gives the name. The domain is zero if it is
    not a number. -/
def NamesProduct (files : FileTree) (locations : Locations) (properties : Properties)
    (name : String) : Prop :=
  ∃ chip location text revision,
    properties.word? "device_id" = some chip ∧ properties.word? "location_id" = some location ∧
    files.readText (locations.pciRevision ((properties.word? "domain").getD 0) location) = .ok text ∧
    StatesRevision text revision ∧
    FirstGives (ProductNames.IsRow (chip, revision))
      ((ProductNames.tables files locations.productTables).flatMap fun table =>
        Text.lines table.toList) name

/-- The GPU of a node has the name of its product, and each number on the way to it shows for
    itself. -/
structure AgentRecord.HasProductOf (files : FileTree) (locations : Locations)
    (node : Numbered × Properties) (record : AgentRecord) : Prop where
  nodeId : record.nodeId = node.1.number
  productName : ∀ name, record.productName = some name ↔
    NamesProduct files locations node.2 name
  chipId : record.chipId = node.2.word? "device_id"
  locationId : record.locationId = node.2.word? "location_id"
  domain : record.domain = node.2.word? "domain"

variable {files right : FileTree} {locations : Locations} {entry : Numbered}
  {node : Numbered × Properties} {record : AgentRecord}

theorem readPciRevision?_eq_some_iff {path : String} {revision : UInt32} :
    readPciRevision? files path = some revision ↔
      ∃ text, files.readText path = .ok text ∧ StatesRevision text revision := by
  unfold readPciRevision?
  cases files.readText path <;> simp [pciRevision?_eq_some_iff]

theorem hasProductOf_of_made (made : (Source.ofFiles files locations).MakesGpu node record) :
    record.HasProductOf files locations node := by
  obtain ⟨regions, caches, rfl⟩ := made
  refine ⟨rfl, fun name => ?_, rfl, rfl, rfl⟩
  simp only [Source.gpuAgent, Source.productName?, Source.ofFiles, Option.bind_eq_bind,
    Option.bind_eq_some_iff, readPciRevision?_eq_some_iff, ProductNames.name?_load_eq_some_iff,
    NamesProduct]
  constructor
  · intro found
    obtain ⟨chip, isChip, location, isLocation, revision, ⟨text, read, states⟩, row⟩ := found
    exact ⟨chip, location, text, revision, isChip, isLocation, read, states, row⟩
  · intro named
    obtain ⟨chip, location, text, revision, isChip, isLocation, read, states, row⟩ := named
    exact ⟨chip, isChip, location, isLocation, revision, ⟨text, read, states⟩, row⟩

/-- Two trees look alike wherever agents are read, apart from the revisions of PCI devices and the
    tables of product names. -/
structure AlikeButProducts (left right : FileTree) (locations : Locations) : Prop where
  frame : FrameAlike left right locations
  nodes : ∀ entry ∈ left.numberedEntries locations.nodes,
    NodeAlike left right (Path.join locations.nodes entry.name)
  cpuInfo : LooksAlike left right locations.cpuInfo

/-- Two records are the same, except that those of a GPU may name different products. -/
structure AgentRecord.SameButProduct (record other : AgentRecord) : Prop where
  same : other = { record with productName := other.productName }
  productName : record.isGpu = false → other.productName = record.productName

theorem AgentRecord.SameButProduct.refl (record : AgentRecord) : record.SameButProduct record :=
  ⟨rfl, fun _ => rfl⟩

theorem gpuAgent_sameButProduct (left right : FileTree) (locations : Locations) (nodeId : UInt32)
    (properties : Properties) (regions : List RegionRecord) (caches : List CacheRecord) :
    ((Source.ofFiles left locations).gpuAgent nodeId properties regions caches).SameButProduct
      ((Source.ofFiles right locations).gpuAgent nodeId properties regions caches) :=
  ⟨rfl, nofun⟩

theorem nodeAgents_sameButProduct {path : String} (cpuInfo : LooksAlike files right locations.cpuInfo)
    (alike : NodeAlike files right path) (nodeId : UInt32) (properties : Properties) :
    List.Forall₂ AgentRecord.SameButProduct
      ((Source.ofFiles files locations).nodeAgents nodeId path properties)
      ((Source.ofFiles right locations).nodeAgents nodeId path properties) := by
  have objects {α : Type} {path : String} (alike : ObjectsAlike files right path)
      (ofProperties : Properties → α) :
      (Source.ofFiles files locations).objects path ofProperties =
        (Source.ofFiles right locations).objects path ofProperties :=
    @Source.objects_alike right path (.ofFiles files locations) α alike ofProperties
  have cpuAgent : (Source.ofFiles files locations).cpuAgent nodeId path =
      (Source.ofFiles right locations).cpuAgent nodeId path := by
    funext properties regions caches
    simp only [Source.cpuAgent, Source.ofFiles, CpuModels.load, cpuInfo.readText,
      alike.name.readTrimmed]
  unfold Source.nodeAgents
  rw [objects alike.banks, objects alike.caches, cpuAgent]
  dsimp only
  split
  · exact .cons (.refl _) (.cons (gpuAgent_sameButProduct ..) .nil)
  split
  · exact .cons (.refl _) .nil
  split
  · exact .cons (gpuAgent_sameButProduct ..) .nil
  · exact .nil

theorem node_sameButProduct (alike : AlikeButProducts files right locations)
    (listed : entry ∈ files.numberedEntries locations.nodes) :
    List.Forall₂ AgentRecord.SameButProduct ((Source.ofFiles files locations).node entry)
      ((Source.ofFiles right locations).node entry) := by
  have node := alike.nodes entry listed
  have read := read_alike node.properties
  cases found : Properties.read files
      (Path.join (Path.join locations.nodes entry.name) "properties") with
  | error failure =>
      rw [@Source.node_of_unreadable (.ofFiles files locations) _ _ found,
        @Source.node_of_unreadable (.ofFiles right locations) _ _ (read.symm.trans found)]
      exact .cons (.refl _) .nil
  | ok properties =>
      rw [@Source.node_of_readable (.ofFiles files locations) _ _ found,
        @Source.node_of_readable (.ofFiles right locations) _ _ (read.symm.trans found)]
      exact nodeAgents_sameButProduct alike.cpuInfo node entry.number properties

theorem load_sameButProduct {snapshot : Snapshot} (alike : AlikeButProducts files right locations)
    (loaded : Snapshot.load files locations = .ok snapshot) :
    ∃ other, Snapshot.load right locations = .ok other ∧ other.system = snapshot.system ∧
      List.Forall₂ AgentRecord.SameButProduct snapshot.agents other.agents := by
  have framed := load_framed alike.frame
  rw [loaded] at framed
  refine ⟨_, framed, rfl, ?_⟩
  rw [(load_eq loaded).1]
  have listed : List.Forall₂ (fun entry other => entry = other ∧
        entry ∈ files.numberedEntries locations.nodes)
      (files.numberedEntries locations.nodes) (files.numberedEntries locations.nodes) :=
    List.forall₂_same.mpr fun entry member => ⟨rfl, member⟩
  refine List.rel_flatMap listed ?_
  intro entry other ⟨same, member⟩
  rw [← same]
  exact node_sameButProduct alike member

/-- The product of a GPU has a name exactly if every step towards it succeeds, and then the one
    in the first row for its device and revision. Whatever stands in the files of revisions and
    in the tables of another tree, and whether they can be read at all, the agents there are
    the same, except that GPUs may have other products. -/
theorem gpu_product_named {files : FileTree} {locations : Locations} {driver : Driver}
    (started : Driver.start files locations = .ok driver) :
    List.Forall₂ (AgentRecord.HasProductOf files locations) (gpuNodes files locations.nodes)
        (driver.snapshot.agents.filter (·.isGpu)) ∧
      (∀ handle record, driver.agentRecord handle = .ok record →
        driver.agent handle .productName =
          .ofFact AgentAttribute.productName.label .text record.productName) ∧
      ∀ right, AlikeButProducts files right locations →
        ∃ other, Driver.start right locations = .ok other ∧
          other.snapshot.system = driver.snapshot.system ∧
          List.Forall₂ AgentRecord.SameButProduct driver.snapshot.agents other.snapshot.agents := by
  obtain ⟨snapshot, loaded, rfl⟩ := start_eq_ok_iff.mp started
  refine ⟨(gpus_of_snapshot loaded).imp fun node record => hasProductOf_of_made,
    fun handle record known => by simp only [Driver.agent, known], fun right alike => ?_⟩
  obtain ⟨other, loadedToo, system, agents⟩ := load_sameButProduct alike loaded
  exact ⟨_, start_eq_ok_iff.mpr ⟨other, loadedToo, rfl⟩, system, agents⟩

/-- What stands apart from the topology may differ. -/
theorem alikeButProducts_of_differBelow {directory : List String}
    (differ : FileTree.DifferBelow directory files right)
    (root : Path.Outside directory locations.topologyRoot)
    (apart : ¬ Path.place locations.topologyRoot <+: directory)
    (cpuInfo : Path.Outside directory locations.cpuInfo) :
    AlikeButProducts files right locations := by
  have inside (names : List String) : ¬ directory <+: Path.place locations.topologyRoot ++ names := by
    intro below
    rcases List.prefix_or_prefix_of_prefix below (List.prefix_append _ names) with before | after
    · exact root.ended before
    · exact apart after
  have beside {name : String} (plain : Path.Plain name) :
      FileTree.FollowedAlike files right (Path.join locations.topologyRoot name) :=
    (differ.followed root).join plain (differ.sameOutline (inside [name]))
  refine {
    frame := {
      root := (differ.followed root).looksAlike
      systemProperties := (beside (by decide)).looksAlike
      generationId := (beside (by decide)).looksAlike
      nodes := (beside (by decide)).looksAlike }
    nodes := fun entry listed => ?_
    cpuInfo := (differ.followed cpuInfo).looksAlike }
  refine nodeAlike_of_followed (beside (by decide)) (plain_of_mem_numberedEntries listed) fun rest _ => ?_
  refine differ.sameOutline ?_
  rw [place_nodes, List.append_assoc]
  exact inside _

/-- A node with cores and SIMDs, beside a directory of devices and tables. -/
def treeOfCards (cards : List (String × FileTree)) : FileTree :=
  .directory [
    ("topology", .directory [("system_properties", .file (some "")), ("nodes", .directory [
      ("0", .directory [("properties", .file (some
        "cpu_cores_count 8\nsimd_count 4\ndevice_id 29772\nlocation_id 768\ndomain -\n"))])])]),
    ("cards", .directory cards)]

def cardLocations : Locations :=
  { rootLocations with
    pciDevices := "/cards/pci"
    productTables := ["/cards/first.ids", "/cards/second.ids"] }

/-- A device whose product the second table names, the first being no text. -/
def listedCard : List (String × FileTree) :=
  [("pci", .directory [("0000:03:00.0", .directory [("revision", .file (some "0xc8\n"))])]),
    ("first.ids", .file none),
    ("second.ids", .file (some "1.0.0\n744C,\tC8,\tRX 7900 XTX\n744c,\tc8,\tOther\n"))]

theorem product_of_listedCard :
    ∃ driver gpu other,
      Driver.start (treeOfCards listedCard) cardLocations = .ok driver ∧
      driver.snapshot.agents.filter (·.isGpu) = [gpu] ∧ gpu.productName = some "RX 7900 XTX" ∧
      Driver.start (treeOfCards []) cardLocations = .ok other ∧
      List.Forall₂ AgentRecord.SameButProduct driver.snapshot.agents other.snapshot.agents ∧
      ∀ agent ∈ other.snapshot.agents, agent.productName = none := by
  obtain ⟨driver, started⟩ := @exists_driver (treeOfCards listedCard) cardLocations (by decide +kernel)
  have differ : FileTree.DifferBelow ["cards"] (treeOfCards listedCard) (treeOfCards []) :=
    @FileTree.DifferBelow.inside "cards" _ [_] [] _ _ (by decide) .here
  have alike : AlikeButProducts (treeOfCards listedCard) (treeOfCards []) cardLocations :=
    alikeButProducts_of_differBelow differ (by decide +kernel) (by decide +kernel)
      (by decide +kernel)
  have unnamed : (Driver.start (treeOfCards []) cardLocations).toOption.map
      (·.snapshot.agents.map (·.productName)) = some [none, none] := by
    decide +kernel
  have numbers : (gpuNodes (treeOfCards listedCard) cardLocations.nodes).map (fun node =>
      (node.2.word? "device_id", node.2.word? "location_id", node.2.word? "domain")) =
      [((some 29772, some 768, none) : Option UInt32 × Option UInt32 × Option UInt32)] := by
    decide +kernel
  have read : (treeOfCards listedCard).readText (cardLocations.pciRevision 0 768) =
      .ok "0xc8\n" := by
    rfl
  have states : StatesRevision "0xc8\n" 200 := pciRevision?_eq_some_iff.mp (by decide +kernel)
  have row := (@ProductNames.name?_load_eq_some_iff "RX 7900 XTX" (treeOfCards listedCard)
    cardLocations.productTables 29772 200).mp (by decide +kernel)
  obtain ⟨products, _, others⟩ := gpu_product_named started
  obtain ⟨other, startedToo, _, same⟩ := others (treeOfCards []) alike
  obtain ⟨node, only, values⟩ := List.map_eq_singleton_iff.mp numbers
  simp only [Prod.mk.injEq] at values
  obtain ⟨chip, location, domain⟩ := values
  rw [only] at products
  obtain ⟨gpu, gpus, product⟩ := forall₂_singleton_iff.mp products
  have named : NamesProduct (treeOfCards listedCard) cardLocations node.2 "RX 7900 XTX" :=
    ⟨29772, 768, "0xc8\n", 200, chip, location, by rw [domain, Option.getD_none, read], states, row⟩
  refine ⟨driver, gpu, other, started, gpus, (product.productName _).mpr named, startedToo, same, ?_⟩
  have products : other.snapshot.agents.map (·.productName) = [none, none] := by
    simpa [startedToo, Except.toOption] using unnamed
  intro agent member
  have inside := List.mem_map_of_mem (f := (·.productName)) member
  rw [products] at inside
  simpa using inside

end Products

end ComputeTopology.Kfd
