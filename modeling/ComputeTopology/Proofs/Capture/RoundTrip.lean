import Mathlib.Data.Option.Basic
import ComputeTopology.Capture.Writer
import ComputeTopology.Proofs.Capture.Fields
import ComputeTopology.Proofs.Json.Printing

namespace ComputeTopology.Capture

open Json

/-- The tree of a value that may be absent. -/
def treeOf {α : Type} (tree : α → Tree) (value? : Option α) : Tree :=
  value?.elim .null tree

def wordTree {α : Type} [Word α] (word : α) : Tree :=
  .number (ofNat (Word.toNat word))

def textTree (content : String) : Tree :=
  .text (some content)

def deviceTree (device : DeviceClass) : Tree :=
  textTree device.name

def segmentTree (segment : Segment) : Tree :=
  textTree segment.name

def regionTree (region : Region) : Tree :=
  .object [
    (some "segment", treeOf segmentTree region.segment),
    (some "size", treeOf wordTree region.size),
    (some "host_accessible", treeOf .bool region.hostAccessible)]

def cacheTree (cache : Cache) : Tree :=
  .object [
    (some "level", treeOf wordTree cache.level),
    (some "size", treeOf wordTree cache.size),
    (some "associativity", treeOf wordTree cache.associativity)]

def agentTree (agent : Agent) : Tree :=
  .object [
    (some "node_id", treeOf wordTree agent.nodeId),
    (some "name", treeOf textTree agent.name),
    (some "product_name", treeOf textTree agent.productName),
    (some "device", treeOf deviceTree agent.device),
    (some "compute_units", treeOf wordTree agent.computeUnits),
    (some "simds_per_cu", treeOf wordTree agent.simdsPerUnit),
    (some "max_waves_per_cu", treeOf wordTree agent.maxWavesPerUnit),
    (some "chip_id", treeOf wordTree agent.chipId),
    (some "location_id", treeOf wordTree agent.locationId),
    (some "domain", treeOf wordTree agent.domain),
    (some "regions", .array (agent.regions.map regionTree)),
    (some "caches", .array (agent.caches.map cacheTree))]

def topologyTree (topology : Topology) : Tree :=
  .object [
    (some "version_major", treeOf wordTree topology.versionMajor),
    (some "version_minor", treeOf wordTree topology.versionMinor),
    (some "generation_id", treeOf wordTree topology.generationId),
    (some "platform_oem", treeOf wordTree topology.platformOem),
    (some "platform_id", treeOf wordTree topology.platformId),
    (some "platform_revision", treeOf wordTree topology.platformRevision),
    (some "agents", .array (topology.agents.map agentTree))]

section Spelled

theorem spells_segment (segment : Segment) : Spells (ofString segment.name) (segmentTree segment) :=
  spells_ofString segment.name

theorem spells_device (device : DeviceClass) : Spells (ofString device.name) (deviceTree device) :=
  spells_ofString device.name

theorem spells_writeWord {α : Type} [Word α] (word? : Option α) :
    Spells (writeWord word?) (treeOf wordTree word?) :=
  spells_ofOption (fun word => spells_ofNat (Word.toNat word)) word?

theorem spells_map {α : Type} {write : α → List Char} {tree : α → Tree}
    (spelled : ∀ item, Spells (write item) (tree item)) (items : List α) :
    List.Forall₂ Spells (items.map write) (items.map tree) := by
  induction items with
  | nil => exact .nil
  | cons item rest ih => exact .cons (spelled item) ih

/-- Members are spelled one after another. -/
theorem spells_cons {key : String} {text : List Char} {tree : Tree}
    {written : List (String × List Char)} {members : List Member} (first : Spells text tree)
    (others : List.Forall₂ SpellsMember written members) :
    List.Forall₂ SpellsMember ((key, text) :: written) ((some key, tree) :: members) :=
  .cons ⟨rfl, first⟩ others

theorem spells_writeRegion (region : Region) : Spells (writeRegion region) (regionTree region) := by
  rw [writeRegion, regionTree]
  apply spells_ofMembers
  refine spells_cons ?_ (spells_cons ?_ (spells_cons ?_ .nil))
  · exact spells_ofOption spells_segment region.segment
  · exact spells_writeWord region.size
  · exact spells_ofOption spells_ofBool region.hostAccessible

theorem spells_writeCache (cache : Cache) : Spells (writeCache cache) (cacheTree cache) := by
  apply spells_ofMembers
  refine spells_cons ?_ (spells_cons ?_ (spells_cons ?_ .nil))
  · exact spells_writeWord cache.level
  · exact spells_writeWord cache.size
  · exact spells_writeWord cache.associativity

theorem spells_writeAgent (agent : Agent) : Spells (writeAgent agent) (agentTree agent) := by
  rw [writeAgent, agentTree]
  apply spells_ofMembers
  refine spells_cons (spells_writeWord agent.nodeId) (spells_cons ?_ (spells_cons ?_
    (spells_cons ?_ (spells_cons (spells_writeWord agent.computeUnits)
    (spells_cons (spells_writeWord agent.simdsPerUnit)
    (spells_cons (spells_writeWord agent.maxWavesPerUnit)
    (spells_cons (spells_writeWord agent.chipId) (spells_cons (spells_writeWord agent.locationId)
    (spells_cons (spells_writeWord agent.domain) (spells_cons ?_ (spells_cons ?_ .nil)))))))))))
  · exact spells_ofOption spells_ofString agent.name
  · exact spells_ofOption spells_ofString agent.productName
  · exact spells_ofOption spells_device agent.device
  · exact spells_ofItems (spells_map spells_writeRegion agent.regions)
  · exact spells_ofItems (spells_map spells_writeCache agent.caches)

theorem spells_writeTopology (topology : Topology) :
    Spells (writeTopology topology) (topologyTree topology) := by
  apply spells_ofMembers
  refine spells_cons (spells_writeWord topology.versionMajor)
    (spells_cons (spells_writeWord topology.versionMinor)
    (spells_cons (spells_writeWord topology.generationId)
    (spells_cons (spells_writeWord topology.platformOem)
    (spells_cons (spells_writeWord topology.platformId)
    (spells_cons (spells_writeWord topology.platformRevision) (spells_cons ?_ .nil))))))
  exact spells_ofItems (spells_map spells_writeAgent topology.agents)

end Spelled

section ReadBack

/-- A way to write values that reading undoes, and that does not look like an absent value. -/
structure ReadsBack {α : Type} (read : Tree → Option α) (tree : α → Tree) : Prop where
  read : ∀ value, read (tree value) = some value
  known : ∀ value, tree value ≠ .null

theorem ReadsBack.optional? {α : Type} {read : Tree → Option α} {tree : α → Tree}
    (back : ReadsBack read tree) (default value? : Option α) :
    optional? default read (some (treeOf tree value?)) = some value? := by
  cases value? with
  | none => rfl
  | some value =>
      have known := back.known value
      have readValue := back.read value
      simp only [treeOf, Option.elim_some]
      unfold Capture.optional?
      split
      · contradiction
      · rename_i same
        exact absurd (Option.some.inj same) known
      · rename_i found _ same
        cases same
        rw [readValue, Option.map_some]

theorem ReadsBack.list? {α : Type} {read : Tree → Option α} {tree : α → Tree}
    (back : ReadsBack read tree) (items : List α) :
    list? read (some (.array (items.map tree))) = some items := by
  simp only [Capture.list?]
  induction items with
  | nil => rfl
  | cons item rest ih =>
      rw [List.map_cons, List.mapM_cons, back.read, ih]
      rfl

theorem readsBack_word {α : Type} [Word α] : ReadsBack (wordOf? : Tree → Option α) wordTree where
  read word := by
    have digits : ofNat (Word.toNat word) = Nat.toDigits 10 (Word.toNat word) :=
      String.toList_ofList
    rw [wordTree, wordOf?, digits, isDigits_decimal, if_pos rfl, Text.Numeral.word?_decimal]
  known _ := nofun

theorem readsBack_text : ReadsBack textOf? textTree where
  read _ := rfl
  known _ := nofun

theorem readsBack_bool : ReadsBack boolOf? .bool where
  read _ := rfl
  known _ := nofun

theorem readsBack_device : ReadsBack deviceOf? deviceTree where
  read device := by cases device <;> decide
  known _ := nofun

theorem readsBack_segment : ReadsBack segmentOf? segmentTree where
  read segment := by cases segment <;> decide
  known _ := nofun

/-- An object of all fields in order gives every field its value. -/
theorem fields?_of_keys {names : List String} {members : List Member}
    (keys : members.map Prod.fst = names.map some) (distinct : names.Nodup) :
    fields? names (.object members) = some (fun name => members.lookup (some name)) := by
  refine fieldsOfObject?_eq_some_iff.mpr ⟨⟨?_, ?_⟩, rfl⟩
  · intro member inside
    have listed : member.1 ∈ names.map some := keys ▸ List.mem_map_of_mem inside
    obtain ⟨name, _, same⟩ := List.mem_map.mp listed
    rw [← same, Option.isSome_some]
  · intro name _
    rw [keys]
    exact List.nodup_iff_count_le_one.mp (distinct.map (Option.some_injective String)) _

theorem readsBack_region : ReadsBack regionOf? regionTree where
  read region := by
    refine regionOf?_eq_some_iff.mpr ⟨_, fields?_of_keys rfl (by decide), ?_, ?_, ?_⟩
    · exact readsBack_segment.optional? none region.segment
    · exact readsBack_word.optional? none region.size
    · exact readsBack_bool.optional? none region.hostAccessible
  known _ := nofun

theorem readsBack_cache : ReadsBack cacheOf? cacheTree where
  read cache := by
    refine cacheOf?_eq_some_iff.mpr ⟨_, fields?_of_keys rfl (by decide), ?_, ?_, ?_⟩
    · exact readsBack_word.optional? none cache.level
    · exact readsBack_word.optional? none cache.size
    · exact readsBack_word.optional? none cache.associativity
  known _ := nofun

theorem readsBack_agent : ReadsBack agentOf? agentTree where
  read agent := by
    refine agentOf?_eq_some_iff.mpr ⟨_, fields?_of_keys rfl (by decide), ?_⟩
    exact {
      nodeId := readsBack_word.optional? none agent.nodeId
      name := readsBack_text.optional? none agent.name
      productName := readsBack_text.optional? none agent.productName
      device := readsBack_device.optional? none agent.device
      computeUnits := readsBack_word.optional? none agent.computeUnits
      simdsPerUnit := readsBack_word.optional? none agent.simdsPerUnit
      maxWavesPerUnit := readsBack_word.optional? none agent.maxWavesPerUnit
      chipId := readsBack_word.optional? none agent.chipId
      locationId := readsBack_word.optional? none agent.locationId
      domain := readsBack_word.optional? none agent.domain
      regions := readsBack_region.list? agent.regions
      caches := readsBack_cache.list? agent.caches }
  known _ := nofun

theorem readsBack_topology : ReadsBack topologyOf? topologyTree where
  read topology := by
    refine topologyOf?_eq_some_iff.mpr ⟨_, fields?_of_keys rfl (by decide), ?_⟩
    exact {
      versionMajor := readsBack_word.optional? (some 1) topology.versionMajor
      versionMinor := readsBack_word.optional? (some 1) topology.versionMinor
      generationId := readsBack_word.optional? none topology.generationId
      platformOem := readsBack_word.optional? none topology.platformOem
      platformId := readsBack_word.optional? none topology.platformId
      platformRevision := readsBack_word.optional? none topology.platformRevision
      agents := readsBack_agent.list? topology.agents }
  known _ := nofun

end ReadBack

theorem read?_write (topology : Topology) : read? (write topology) = some topology := by
  have parsed := parse?_eq_some_iff.mpr (spells_writeTopology topology)
  rw [read?, write, String.toList_ofList, parsed, Option.bind_some, readsBack_topology.read]

end ComputeTopology.Capture
