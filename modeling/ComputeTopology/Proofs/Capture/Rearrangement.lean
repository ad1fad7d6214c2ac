import Mathlib.Data.List.Basic
import ComputeTopology.Proofs.Capture.Fields
import ComputeTopology.Proofs.Json.Trees

namespace ComputeTopology.Capture

open Json

/-- The records that captures are made of. -/
inductive Level where
  | topology
  | agent
  | region
  | cache
deriving DecidableEq

namespace Level

def Record : Level → Type
  | .topology => Topology
  | .agent => Agent
  | .region => Region
  | .cache => Cache

def read? : (level : Level) → Tree → Option level.Record
  | .topology => topologyOf?
  | .agent => agentOf?
  | .region => regionOf?
  | .cache => cacheOf?

def fields : Level → List String
  | .topology => topologyFields
  | .agent => agentFields
  | .region => regionFields
  | .cache => cacheFields

/-- The records in the list that a field holds. -/
def items? : Level → String → Option Level
  | .topology, "agents" => some .agent
  | .agent, "regions" => some .region
  | .agent, "caches" => some .cache
  | _, _ => none

/-- Fields that have a value when they are left out. -/
def presumed : Level → List String
  | .topology => ["version_major", "version_minor"]
  | _ => []

end Level

/-- The trees that come of a record's tree by rearranging objects in it. A member that
    is added or left out stands in front: any other place is a permutation away. -/
inductive Rearranged : Level → Tree → Tree → Prop where
  | permute {level : Level} {members others : List Member} (order : members.Perm others) :
      Rearranged level (.object members) (.object others)
  | insert {level : Level} {key : String} (value : Tree) (members : List Member)
      (unknown : key ∉ level.fields) :
      Rearranged level (.object members) (.object ((some key, value) :: members))
  | drop {level : Level} {key : String} (members : List Member)
      (absent : key ∉ level.presumed) :
      Rearranged level (.object ((some key, .null) :: members)) (.object members)
  /-- Inside a record in the list of a member. -/
  | member {level inner : Level} {name : String} {item other : Tree} (front back : List Tree)
      (members : List Member) (held : level.items? name = some inner)
      (changed : Rearranged inner item other) :
      Rearranged level (.object ((some name, .array (front ++ item :: back)) :: members))
        (.object ((some name, .array (front ++ other :: back)) :: members))
  /-- Inside a record in a list, when the fields around it are written as an array. -/
  | item {level inner : Level} {name : String} {item other : Tree} (before after front back : List Tree)
      (place : level.fields[before.length]? = some name) (held : level.items? name = some inner)
      (changed : Rearranged inner item other) :
      Rearranged level (.array (before ++ .array (front ++ item :: back) :: after))
        (.array (before ++ .array (front ++ other :: back) :: after))
  | trans {level : Level} {tree next last : Tree} (first : Rearranged level tree next)
      (second : Rearranged level next last) : Rearranged level tree last

namespace Level

/-- Values of a field that are read alike. -/
inductive ReadsAlike (level : Level) (name : String) : Option Tree → Option Tree → Prop where
  | same (value? : Option Tree) : ReadsAlike level name value? value?
  | dropped (absent : name ∉ level.presumed) : ReadsAlike level name (some .null) none
  | inside {inner : Level} {items others : List Tree} (held : level.items? name = some inner)
      (alike : ∀ records, items.mapM inner.read? = some records →
        others.mapM inner.read? = some records) :
      ReadsAlike level name (some (.array items)) (some (.array others))

variable {level : Level} {name : String} {left right : Option Tree}

theorem ReadsAlike.optional? {α : Type} {read : Tree → Option α} {value? : Option α}
    (alike : level.ReadsAlike name left right) (single : level.items? name = none)
    (reads : optional? none read left = some value?) : optional? none read right = some value? := by
  cases alike with
  | same => exact reads
  | dropped => exact reads
  | inside held => simp [held] at single

theorem ReadsAlike.eq_of_presumed (alike : level.ReadsAlike name left right)
    (single : level.items? name = none) (presumed : name ∈ level.presumed) : left = right := by
  cases alike with
  | same => rfl
  | dropped absent => contradiction
  | inside held => simp [held] at single

theorem ReadsAlike.list? (inner : Level) {records : List inner.Record}
    (alike : level.ReadsAlike name left right) (held : level.items? name = some inner) (reads : list? inner.read? left = some records) :
    list? inner.read? right = some records := by
  cases alike with
  | same => exact reads
  | dropped => contradiction
  | inside other alike =>
      rw [held] at other
      cases other
      exact alike records reads

end Level

section Records

variable {field other : Fields}

theorem Region.ReadFrom.of_alike {region : Region} (reads : region.ReadFrom field)
    (alike : ∀ name ∈ regionFields, Level.region.ReadsAlike name (field name) (other name)) :
    region.ReadFrom other where
  segment := (alike "segment" (by decide)).optional? rfl reads.segment
  size := (alike "size" (by decide)).optional? rfl reads.size
  hostAccessible := (alike "host_accessible" (by decide)).optional? rfl reads.hostAccessible

theorem Cache.ReadFrom.of_alike {cache : Cache} (reads : cache.ReadFrom field)
    (alike : ∀ name ∈ cacheFields, Level.cache.ReadsAlike name (field name) (other name)) :
    cache.ReadFrom other where
  level := (alike "level" (by decide)).optional? rfl reads.level
  size := (alike "size" (by decide)).optional? rfl reads.size
  associativity := (alike "associativity" (by decide)).optional? rfl reads.associativity

theorem Agent.ReadFrom.of_alike {agent : Agent} (reads : agent.ReadFrom field)
    (alike : ∀ name ∈ agentFields, Level.agent.ReadsAlike name (field name) (other name)) :
    agent.ReadFrom other where
  nodeId := (alike "node_id" (by decide)).optional? rfl reads.nodeId
  name := (alike "name" (by decide)).optional? rfl reads.name
  productName := (alike "product_name" (by decide)).optional? rfl reads.productName
  device := (alike "device" (by decide)).optional? rfl reads.device
  computeUnits := (alike "compute_units" (by decide)).optional? rfl reads.computeUnits
  simdsPerUnit := (alike "simds_per_cu" (by decide)).optional? rfl reads.simdsPerUnit
  maxWavesPerUnit := (alike "max_waves_per_cu" (by decide)).optional? rfl reads.maxWavesPerUnit
  chipId := (alike "chip_id" (by decide)).optional? rfl reads.chipId
  locationId := (alike "location_id" (by decide)).optional? rfl reads.locationId
  domain := (alike "domain" (by decide)).optional? rfl reads.domain
  regions := (alike "regions" (by decide)).list? .region rfl reads.regions
  caches := (alike "caches" (by decide)).list? .cache rfl reads.caches

theorem Topology.ReadFrom.of_alike {topology : Topology} (reads : topology.ReadFrom field)
    (alike : ∀ name ∈ topologyFields, Level.topology.ReadsAlike name (field name) (other name)) :
    topology.ReadFrom other where
  versionMajor := by
    rw [← (alike "version_major" (by decide)).eq_of_presumed rfl (by decide)]
    exact reads.versionMajor
  versionMinor := by
    rw [← (alike "version_minor" (by decide)).eq_of_presumed rfl (by decide)]
    exact reads.versionMinor
  generationId := (alike "generation_id" (by decide)).optional? rfl reads.generationId
  platformOem := (alike "platform_oem" (by decide)).optional? rfl reads.platformOem
  platformId := (alike "platform_id" (by decide)).optional? rfl reads.platformId
  platformRevision := (alike "platform_revision" (by decide)).optional? rfl reads.platformRevision
  agents := (alike "agents" (by decide)).list? .agent rfl reads.agents

end Records

/-- Trees whose fields are read alike. -/
def Level.TreesAlike (level : Level) (tree result : Tree) : Prop :=
  ∀ field, fields? level.fields tree = some field →
    ∃ other, fields? level.fields result = some other ∧
      ∀ name ∈ level.fields, level.ReadsAlike name (field name) (other name)

/-- A record is read from the values of its fields. -/
theorem Level.TreesAlike.read? {level : Level} {tree result : Tree}
    (alike : level.TreesAlike tree result) (record : level.Record)
    (reads : level.read? tree = some record) : level.read? result = some record := by
  cases level with
  | topology =>
      obtain ⟨field, found, reads⟩ := topologyOf?_eq_some_iff.mp reads
      obtain ⟨other, foundOther, alike⟩ := alike field found
      exact topologyOf?_eq_some_iff.mpr ⟨other, foundOther, reads.of_alike alike⟩
  | agent =>
      obtain ⟨field, found, reads⟩ := agentOf?_eq_some_iff.mp reads
      obtain ⟨other, foundOther, alike⟩ := alike field found
      exact agentOf?_eq_some_iff.mpr ⟨other, foundOther, reads.of_alike alike⟩
  | region =>
      obtain ⟨field, found, reads⟩ := regionOf?_eq_some_iff.mp reads
      obtain ⟨other, foundOther, alike⟩ := alike field found
      exact regionOf?_eq_some_iff.mpr ⟨other, foundOther, reads.of_alike alike⟩
  | cache =>
      obtain ⟨field, found, reads⟩ := cacheOf?_eq_some_iff.mp reads
      obtain ⟨other, foundOther, alike⟩ := alike field found
      exact cacheOf?_eq_some_iff.mpr ⟨other, foundOther, reads.of_alike alike⟩

section Objects

variable {level : Level} {members others : List Member}

/-- Objects are read alike if both can be read and their members are. -/
theorem treesAlike_objects
    (alike : Legible level.fields members → Legible level.fields others ∧
      ∀ name ∈ level.fields,
        level.ReadsAlike name (members.lookup (some name)) (others.lookup (some name))) :
    level.TreesAlike (.object members) (.object others) := by
  intro field found
  obtain ⟨legible, rfl⟩ := fieldsOfObject?_eq_some_iff.mp found
  obtain ⟨still, values⟩ := alike legible
  exact ⟨_, fieldsOfObject?_eq_some_iff.mpr ⟨still, rfl⟩, values⟩

theorem treesAlike_permute (order : members.Perm others) :
    level.TreesAlike (.object members) (.object others) := by
  apply treesAlike_objects
  intro legible
  refine ⟨⟨?_, ?_⟩, ?_⟩
  · intro member inside
    exact legible.readable member (order.mem_iff.mpr inside)
  · intro name known
    rw [← (order.map Prod.fst).count_eq]
    exact legible.once name known
  · intro name known
    rw [lookup_perm (legible.once name known) order]
    exact .same _

theorem lookup_cons_of_ne {key name : String} (different : name ≠ key) (value : Tree)
    (members : List Member) :
    ((some key, value) :: members : List Member).lookup (some name) = members.lookup (some name) := by
  have unequal : (some name == some key) = false := by simpa using different
  rw [List.lookup_cons, unequal]

theorem count_cons_of_ne {key name : String} (different : name ≠ key) (value : Tree)
    (members : List Member) :
    (((some key, value) :: members : List Member).map Prod.fst).count (some name) =
      (members.map Prod.fst).count (some name) := by
  rw [List.map_cons, List.count_cons_of_ne (by simpa using different.symm)]

theorem treesAlike_insert {key : String} (value : Tree) (unknown : key ∉ level.fields) :
    level.TreesAlike (.object members) (.object ((some key, value) :: members)) := by
  apply treesAlike_objects
  intro legible
  have different {name : String} (known : name ∈ level.fields) : name ≠ key := by
    rintro rfl
    exact unknown known
  refine ⟨⟨?_, ?_⟩, ?_⟩
  · exact List.forall_mem_cons.mpr ⟨rfl, legible.readable⟩
  · intro name known
    rw [count_cons_of_ne (different known)]
    exact legible.once name known
  · intro name known
    rw [lookup_cons_of_ne (different known)]
    exact .same _

theorem treesAlike_drop {key : String} (absent : key ∉ level.presumed) :
    level.TreesAlike (.object ((some key, .null) :: members)) (.object members) := by
  apply treesAlike_objects
  intro legible
  have fewer (name : String) : (members.map Prod.fst).count (some name) ≤
      (((some key, .null) :: members : List Member).map Prod.fst).count (some name) := by
    rw [List.map_cons]
    exact List.count_le_count_cons
  refine ⟨⟨?_, ?_⟩, ?_⟩
  · exact (List.forall_mem_cons.mp legible.readable).2
  · intro name known
    exact Nat.le_trans (fewer name) (legible.once name known)
  · intro name known
    by_cases same : name = key
    · subst same
      -- The field is given once, so nothing takes the place of its null.
      have once := legible.once name known
      rw [List.map_cons, List.count_cons_self] at once
      have gone : members.lookup (some name) = none :=
        lookup_eq_none_iff.mpr (List.count_eq_zero.mp (by omega))
      rw [List.lookup_cons_self, gone]
      exact .dropped absent
    · rw [lookup_cons_of_ne same]
      exact .same _

/-- Reading a list of records goes on alike after a record that is read alike. -/
theorem mapM_read?_alike {inner : Level} {item other : Tree} (front back : List Tree)
    (alike : ∀ record, inner.read? item = some record → inner.read? other = some record)
    (records : List inner.Record)
    (reads : (front ++ item :: back).mapM inner.read? = some records) :
    (front ++ other :: back).mapM inner.read? = some records := by
  simp only [List.mapM_append, List.mapM_cons, bind, Option.bind_eq_some_iff, pure,
    Option.some.injEq] at reads ⊢
  obtain ⟨ahead, readFront, _, ⟨record, readItem, behind, readBack, rfl⟩, rfl⟩ := reads
  exact ⟨ahead, readFront, _, ⟨record, alike record readItem, behind, readBack, rfl⟩, rfl⟩

theorem treesAlike_member {inner : Level} {name : String} {item other : Tree}
    (front back : List Tree) (held : level.items? name = some inner)
    (alike : ∀ record, inner.read? item = some record → inner.read? other = some record) :
    level.TreesAlike (.object ((some name, .array (front ++ item :: back)) :: members))
      (.object ((some name, .array (front ++ other :: back)) :: members)) := by
  apply treesAlike_objects
  intro legible
  refine ⟨⟨?_, legible.once⟩, ?_⟩
  · exact List.forall_mem_cons.mpr ⟨rfl, (List.forall_mem_cons.mp legible.readable).2⟩
  · intro asked _
    by_cases same : asked = name
    · subst same
      rw [List.lookup_cons_self, List.lookup_cons_self]
      exact .inside held (mapM_read?_alike front back alike)
    · rw [lookup_cons_of_ne same, lookup_cons_of_ne same]
      exact .same _

end Objects

section Arrays

variable {level : Level} {names : List String} {name asked : String}

theorem lookup_zip_place {before : List Tree} (distinct : names.Nodup)
    (place : names[before.length]? = some name) (value : Tree) (after : List Tree) :
    (names.zip (before ++ value :: after)).lookup name = some value := by
  induction before generalizing names with
  | nil =>
      cases names with
      | nil => contradiction
      | cons first others =>
          cases place
          exact List.lookup_cons_self
  | cons head before ih =>
      cases names with
      | nil => contradiction
      | cons first others =>
          obtain ⟨absent, distinct⟩ := List.nodup_cons.mp distinct
          have place : others[before.length]? = some name := place
          -- The name stands further behind and is not given twice.
          have unequal : (name == first) = false := by
            rw [beq_eq_false_iff_ne]
            rintro rfl
            exact absent (List.mem_of_getElem? place)
          rw [List.cons_append, List.zip_cons_cons, List.lookup_cons, unequal]
          exact ih distinct place

theorem lookup_zip_elsewhere {before : List Tree} (place : names[before.length]? = some name)
    (different : asked ≠ name) (value other : Tree) (after : List Tree) :
    (names.zip (before ++ value :: after)).lookup asked =
      (names.zip (before ++ other :: after)).lookup asked := by
  induction before generalizing names with
  | nil =>
      cases names with
      | nil => contradiction
      | cons first others =>
          cases place
          have unequal : (asked == name) = false := beq_eq_false_iff_ne.mpr different
          simp only [List.nil_append, List.zip_cons_cons, List.lookup_cons, unequal]
  | cons head before ih =>
      cases names with
      | nil => contradiction
      | cons first others =>
          simp only [List.cons_append, List.zip_cons_cons, List.lookup_cons]
          rw [ih place]

theorem Level.nodup_fields (level : Level) : level.fields.Nodup := by
  cases level <;> decide

theorem treesAlike_item {inner : Level} {item other : Tree} (before after front back : List Tree)
    (place : level.fields[before.length]? = some name) (held : level.items? name = some inner)
    (alike : ∀ record, inner.read? item = some record → inner.read? other = some record) :
    level.TreesAlike (.array (before ++ .array (front ++ item :: back) :: after))
      (.array (before ++ .array (front ++ other :: back) :: after)) := by
  intro field found
  simp only [fields?, fieldsOfArray?, Option.ite_none_right_eq_some, Option.some.injEq] at found ⊢
  obtain ⟨fits, rfl⟩ := found
  have still : (before ++ .array (front ++ other :: back) :: after).length ≤ level.fields.length := by
    simpa using fits
  refine ⟨_, ⟨still, rfl⟩, ?_⟩
  intro asked _
  by_cases same : asked = name
  · subst same
    simp only [lookup_zip_place level.nodup_fields place]
    exact .inside held (mapM_read?_alike front back alike)
  · simp only [lookup_zip_elsewhere place same _ (.array (front ++ other :: back)) after]
    exact .same _

end Arrays

/-- A rearranged record is read as the same record. -/
theorem Rearranged.read? {level : Level} {tree result : Tree}
    (rearranged : Rearranged level tree result) (record : level.Record)
    (reads : level.read? tree = some record) : level.read? result = some record := by
  -- An inner record is rearranged at its own level, so the record stays general.
  induction rearranged with
  | permute order => exact (treesAlike_permute order).read? record reads
  | insert value members unknown => exact (treesAlike_insert value unknown).read? record reads
  | drop members absent => exact (treesAlike_drop absent).read? record reads
  | member front back members held changed alike =>
      exact (treesAlike_member front back held alike).read? record reads
  | item before after front back place held changed alike =>
      exact (treesAlike_item before after front back place held alike).read? record reads
  | trans first second alike alikeNext => exact alikeNext record (alike record reads)

/-- The texts that come of a capture by rearranging it and by adding blanks between its tokens. -/
inductive Rewritten : List Char → List Char → Prop where
  | spread {before gap after : List Char} {first second : List Token}
      (front : Lexes before first) (back : Lexes after second)
      (whole : Lexes (before ++ after) (first ++ second))
      (blank : ∀ c ∈ gap, Token.isSpace c = true) :
      Rewritten (before ++ after) (before ++ (gap ++ after))
  | rearrange {text other : List Char} {tree result : Tree} (spelled : Spells text tree)
      (rearranged : Rearranged .topology tree result) (respelled : Spells other result) :
      Rewritten text other
  | trans {text next last : List Char} (first : Rewritten text next)
      (second : Rewritten next last) : Rewritten text last

theorem Rewritten.reads {text other : List Char} (rewritten : Rewritten text other)
    (topology : Topology) (reads : (parse? text).bind topologyOf? = some topology) :
    (parse? other).bind topologyOf? = some topology := by
  induction rewritten with
  | spread front back whole blank =>
      have spread := tokens?_eq_some_iff.mpr (front.spread back whole blank)
      rw [parse?, tokens?_eq_some_iff.mpr whole] at reads
      rwa [parse?, spread]
  | rearrange spelled rearranged respelled =>
      rw [parse?_eq_some_iff.mpr spelled] at reads
      rw [parse?_eq_some_iff.mpr respelled]
      exact rearranged.read? topology reads
  | trans first second alike alikeNext => exact alikeNext (alike reads)

theorem read?_rewritten {text other : String} {topology : Topology}
    (accepted : read? text = some topology) (rewritten : Rewritten text.toList other.toList) :
    read? other = some topology :=
  rewritten.reads topology accepted

theorem annotated_capture_reads_alike :
    Rewritten "\x7b\"agents\":[\x7b\"chip_id\":null\x7d]\x7d".toList
        "\x7b\"agents\":[\x7b\x7d], \"note\":[[]]\x7d".toList ∧
      read? "\x7b\"agents\":[\x7b\x7d], \"note\":[[]]\x7d" =
        some ⟨some 1, some 1, none, none, none, none,
          [⟨none, none, none, none, none, none, none, none, none, none, [], []⟩]⟩ := by
  have spelled : Spells "\x7b\"agents\":[\x7b\"chip_id\":null\x7d]\x7d".toList
      (.object [(some "agents", .array [.object [(some "chip_id", .null)]])]) :=
    parse?_eq_some_iff.mp rfl
  have dropped : Rearranged .topology
      (.object [(some "agents", .array [.object [(some "chip_id", .null)]])])
      (.object [(some "agents", .array [.object []])]) :=
    .member [] [] _ rfl (.drop _ (by decide))
  have noted : Rearranged .topology (.object [(some "agents", .array [.object []])])
      (.object [(some "note", .array [.array []]), (some "agents", .array [.object []])]) :=
    .insert _ _ (by decide)
  have moved := noted.trans (.permute (.swap _ _ _))
  have respelled : Spells "\x7b\"agents\":[\x7b\x7d],\"note\":[[]]\x7d".toList
      (.object [(some "agents", .array [.object []]), (some "note", .array [.array []])]) :=
    parse?_eq_some_iff.mp rfl
  have front : Lexes "\x7b\"agents\":[\x7b\x7d],".toList
      [.openObject, .text (some "agents"), .colon, .openArray, .openObject, .closeObject,
        .closeArray, .comma] :=
    tokens?_eq_some_iff.mp rfl
  have back : Lexes "\"note\":[[]]\x7d".toList
      [.text (some "note"), .colon, .openArray, .openArray, .closeArray, .closeArray,
        .closeObject] :=
    tokens?_eq_some_iff.mp rfl
  have blank : ∀ c ∈ [' '], Token.isSpace c = true := List.forall_mem_singleton.mpr rfl
  have spread := Rewritten.spread front back (tokens?_eq_some_iff.mp rfl) blank
  have rewritten := (Rewritten.rearrange spelled (dropped.trans moved) respelled).trans spread
  exact ⟨rewritten, read?_rewritten (by decide +kernel) rewritten⟩

/-- A member cannot be ignored if its key is no Unicode text. -/
theorem unpaired_key_refused :
    Spells "\x7b\x7d".toList (.object []) ∧
      Spells "\x7b\"\\ud800\":0\x7d".toList (.object [(none, .number ['0'])]) ∧
      none ∉ topologyFields.map some ∧
      read? "\x7b\x7d" = some ⟨some 1, some 1, none, none, none, none, []⟩ ∧
      read? "\x7b\"\\ud800\":0\x7d" = none := by
  refine ⟨parse?_eq_some_iff.mp rfl, parse?_eq_some_iff.mp rfl, ?_, ?_, ?_⟩
  · decide
  · decide +kernel
  · decide +kernel

end ComputeTopology.Capture
