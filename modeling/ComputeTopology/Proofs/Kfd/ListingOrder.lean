import ComputeTopology.Proofs.FileTree.Relisting
import ComputeTopology.Proofs.Kfd.Locations
import ComputeTopology.Proofs.Kfd.Outcome
import ComputeTopology.Proofs.Kfd.Reading

namespace ComputeTopology.Kfd

open FileTree

/-- The paths that a configuration names, apart from those below the root of the topology. -/
inductive Locations.Names (locations : Locations) : String → Prop
  | topologyRoot : Names locations locations.topologyRoot
  | cpuInfo : Names locations locations.cpuInfo
  | productTable {table} : table ∈ locations.productTables → Names locations table
  | pciRevision {domain location} : Names locations (locations.pciRevision domain location)

/-- The directories that are listed: that of the nodes, and two for each node. -/
inductive Locations.Lists (locations : Locations) (files : FileTree) : String → Prop
  | nodes : Lists locations files locations.nodes
  | objects {entry listing} : entry ∈ files.numberedEntries locations.nodes →
      listing ∈ ["mem_banks", "caches"] →
        Lists locations files (Path.join (Path.join locations.nodes entry.name) listing)

/-- A place in a listed directory that is no numbered directory there, and on the way of
    no path that the configuration names. -/
structure Locations.Stray (locations : Locations) (files : FileTree) (place : List String) :
    Prop where
  beside : ∃ path name, locations.Lists files path ∧ place = Path.place path ++ [name] ∧
    ∀ entry ∈ files.numberedEntries path, entry.name ≠ name
  unread : ∀ path, locations.Names path → Path.Avoids place path

variable {left right files : FileTree} {locations : Locations} {entry : Numbered}
  {place rest : List String} {listing : String}

theorem avoids_pciRevision {domain location : UInt32}
    (avoids : Path.Avoids place locations.pciDevices)
    (beside : ¬ Path.place locations.pciDevices <+: place) :
    Path.Avoids place (locations.pciRevision domain location) := by
  -- A place on the way to a device is on the way to all of them, or below their directory.
  have ended (names : List String) : ¬ place <+: Path.place locations.pciDevices ++ names := by
    intro below
    rcases List.prefix_or_prefix_of_prefix below (List.prefix_append _ names) with before | after
    · exact avoids _ (Path.mem_visits_iff.mpr (.inr rfl)) before
    · exact beside after
  have address := (Locations.plain_pciAddress domain location).1
  refine (avoids.join address (ended _)).join (by decide) ?_
  rw [Path.place_join address, List.append_assoc]
  exact ended _

theorem plain_of_listing (read : listing ∈ ["mem_banks", "caches"]) : Path.Plain listing := by
  rcases List.mem_pair.mp read with rfl | rfl <;> decide

theorem place_objects (member : entry ∈ files.numberedEntries locations.nodes)
    (read : listing ∈ ["mem_banks", "caches"]) :
    Path.place (Path.join (Path.join locations.nodes entry.name) listing) =
      Path.place locations.nodes ++ [entry.name, listing] := by
  rw [Path.place_join (plain_of_listing read),
    Path.place_join (plain_of_mem_numberedEntries member), List.append_assoc]
  rfl

theorem stray_cases (stray : locations.Stray files place) :
    (∃ name, place = Path.place locations.nodes ++ [name] ∧
      ∀ entry ∈ files.numberedEntries locations.nodes, entry.name ≠ name) ∨
    ∃ (entry : Numbered) (listing name : String),
      place = Path.place locations.nodes ++ [entry.name, listing, name] ∧
      ∀ object ∈ files.numberedEntries (Path.join (Path.join locations.nodes entry.name) listing),
        object.name ≠ name := by
  obtain ⟨path, name, lists, rfl, absent⟩ := stray.beside
  cases lists with
  | nodes => exact .inl ⟨name, rfl, absent⟩
  | @objects entry listing member read =>
      refine .inr ⟨entry, listing, name, ?_, absent⟩
      rw [place_objects member read, List.append_assoc]
      rfl

theorem not_stray_frame (short : place.length ≤ (Path.place locations.nodes).length)
    {front : List String} (before : front <+: place) : ¬ locations.Stray files front := by
  intro stray
  have length := before.length_le
  rcases stray_cases stray with ⟨name, rfl, _⟩ | ⟨entry, listing, name, rfl, _⟩
  all_goals
    simp only [List.length_append, List.length_cons] at length
    omega

/-- No stray is on the way to what is read of a node. -/
theorem not_stray_inside (member : entry ∈ files.numberedEntries locations.nodes)
    (inside : NodePlace files (Path.join locations.nodes entry.name) rest) {front : List String}
    (before : front <+: Path.place locations.nodes ++ entry.name :: rest) :
    ¬ locations.Stray files front := by
  intro stray
  -- One among the nodes bears no name of a node, one among the objects of a node no name of these.
  rcases stray_cases stray with ⟨name, rfl, absent⟩ | ⟨other, listing, name, rfl, absent⟩
  · rw [List.prefix_append_right_inj, List.cons_prefix_cons] at before
    exact absent entry member before.1.symm
  · rw [List.prefix_append_right_inj, List.cons_prefix_cons] at before
    obtain ⟨same, below⟩ := before
    rw [same] at absent
    cases inside with
    | directory => simp at below
    | own => simp at below
    | object _ listed =>
        obtain ⟨rfl, last⟩ := List.cons_prefix_cons.mp below
        exact absent _ listed (List.cons_prefix_cons.mp last).1.symm
    | properties _ listed =>
        obtain ⟨rfl, last⟩ := List.cons_prefix_cons.mp below
        exact absent _ listed (List.cons_prefix_cons.mp last).1.symm

section Relisted

variable (distinct : left.NumbersDistinct)
  (relisted : Relisted (locations.Stray left) [] left right)

include distinct relisted

theorem followed_named {path : String} (named : locations.Names path) :
    FollowedAlike left right path :=
  relisted.followed distinct fun _ stray => stray.unread path named

theorem surroundings_relisted : SurroundingsAlike left right locations where
  cpuInfo := (followed_named distinct relisted .cpuInfo).looksAlike
  productTables _ member := (followed_named distinct relisted (.productTable member)).looksAlike
  revisions _ _ := (followed_named distinct relisted .pciRevision).looksAlike

theorem followed_in_root {name : String} (plain : Path.Plain name) :
    FollowedAlike left right (Path.join locations.topologyRoot name) := by
  refine (followed_named distinct relisted .topologyRoot).join plain ?_
  refine relisted.sameOutline distinct fun front before _ => not_stray_frame ?_ before
  simp [place_nodes]

theorem frame_relisted : FrameAlike left right locations where
  root := (followed_named distinct relisted .topologyRoot).looksAlike
  systemProperties := (followed_in_root distinct relisted (by decide)).looksAlike
  generationId := (followed_in_root distinct relisted (by decide)).looksAlike
  nodes := (followed_in_root distinct relisted (by decide)).looksAlike

theorem node_relisted (member : entry ∈ left.numberedEntries locations.nodes) :
    NodeAlike left right (Path.join locations.nodes entry.name) := by
  have nodes : FollowedAlike left right locations.nodes :=
    followed_in_root distinct relisted (by decide)
  refine nodeAlike_of_followed nodes (plain_of_mem_numberedEntries member) fun rest inside => ?_
  exact relisted.sameOutline distinct fun front before _ => not_stray_inside member inside before

end Relisted

theorem agents_in_order {snapshot : Snapshot}
    (loaded : Snapshot.load files locations = .ok snapshot) :
    snapshot.agents.Pairwise (·.nodeId ≤ ·.nodeId) := by
  rw [(load_eq loaded).1, List.pairwise_flatMap]
  constructor
  · intro entry _
    refine List.pairwise_of_forall_mem_list fun first member second other => ?_
    rw [Source.nodeId_of_mem_node member, Source.nodeId_of_mem_node other]
    exact UInt32.le_refl _
  · refine (numberedEntries_sorted files locations.nodes).imp fun ordered first member second other => ?_
    rw [Source.nodeId_of_mem_node member, Source.nodeId_of_mem_node other]
    exact ordered

/-- A snapshot is the same however the directories of the tree are listed, and whatever else
    stands beside the numbered ones. These are listed alike, in strictly increasing order. -/
theorem load_relisted (distinct : left.NumbersDistinct)
    (relisted : Relisted (locations.Stray left) [] left right) :
    Snapshot.load right locations = Snapshot.load left locations ∧
      (∀ snapshot, Snapshot.load left locations = .ok snapshot →
        snapshot.agents.Pairwise (·.nodeId ≤ ·.nodeId)) ∧
      ∀ path, locations.Lists left path →
        right.numberedEntries path = left.numberedEntries path ∧
          (left.numberedEntries path).Pairwise (·.number < ·.number) := by
  have frame := frame_relisted distinct relisted
  have nodes {entry : Numbered} (member : entry ∈ left.numberedEntries locations.nodes) :
      NodeAlike left right (Path.join locations.nodes entry.name) :=
    node_relisted distinct relisted member
  refine ⟨?_, fun snapshot loaded => agents_in_order loaded,
    fun path lists => ⟨?_, numberedEntries_increasing distinct path⟩⟩
  · rw [load_framed frame]
    cases loaded : Snapshot.load left locations with
    | error failure => rfl
    | ok snapshot =>
        have agents : (left.numberedEntries locations.nodes).flatMap
            (Source.ofFiles right locations).node = snapshot.agents := by
          rw [(load_eq loaded).1]
          exact List.flatMap_congr fun entry member =>
            Source.ofFiles_node_alike (surroundings_relisted distinct relisted) (nodes member)
        rw [agents]
        rfl
  · cases lists with
    | nodes => exact frame.nodes.numberedEntries.symm
    | objects member read =>
        rcases List.mem_pair.mp read with rfl | rfl
        · exact (nodes member).banks.listed.numberedEntries.symm
        · exact (nodes member).caches.listed.numberedEntries.symm

def nodeWithBanks (banks : List (String × FileTree)) : FileTree :=
  .directory [("properties", .file (some "cpu_cores_count 8\n")), ("mem_banks", .directory banks)]

def bankOfSize (size : String) : FileTree :=
  .directory [("properties", .file (some ("size_in_bytes " ++ size ++ "\n")))]

def inOrder : FileTree :=
  treeOfNodes [
    ("0", nodeWithBanks [("0", bankOfSize "10"), ("1", bankOfSize "20")]),
    ("1", nodeWithBanks [])]

/-- The banks and the nodes listed the other way round, after a file that bears a number. -/
def shuffled : FileTree :=
  treeOfNodes [
    ("3", .file none),
    ("1", nodeWithBanks []),
    ("0", nodeWithBanks [("1", bankOfSize "20"), ("0", bankOfSize "10")])]

theorem load_shuffled :
    Snapshot.load shuffled rootLocations = Snapshot.load inOrder rootLocations := by
  have distinct : inOrder.NumbersDistinct := by
    simp only [inOrder, treeOfNodes, nodeWithBanks, bankOfSize, numbersDistinct_directory,
      numbersDistinct_file, List.forall_mem_cons, List.not_mem_nil, false_implies, implies_true]
    decide
  have stray : rootLocations.Stray inOrder ["topology", "nodes", "3"] := {
    beside := ⟨rootLocations.nodes, "3", .nodes, by decide +kernel, by decide +kernel⟩
    unread := by
      intro path named
      cases named with
      | topologyRoot => decide +kernel
      | cpuInfo => decide +kernel
      | productTable member =>
          have tables : ∀ table ∈ rootLocations.productTables,
              Path.Avoids ["topology", "nodes", "3"] table := by
            decide +kernel
          exact tables path member
      | pciRevision => exact avoids_pciRevision (by decide +kernel) (by decide +kernel) }
  have relisted : Relisted (rootLocations.Stray inOrder) [] inOrder shuffled := by
    have banks := @Relisted.reorder (rootLocations.Stray inOrder)
      ["topology", "nodes", "0", "mem_banks"] _ _ (by decide)
      (.swap ("1", bankOfSize "20") ("0", bankOfSize "10") [])
    refine @Relisted.inside _ [] "topology" [] [] _ _ (by decide) ?_
    refine @Relisted.inside _ ["topology"] "nodes" [_] [] _ _ (by decide) ?_
    refine .trans (@Relisted.inside _ _ "0" [] [_] _ _ (by decide) ?_)
      (.trans (.reorder (by decide) (.swap _ _ _)) (.stray stray rfl))
    exact @Relisted.inside _ _ "mem_banks" [_] [] _ _ (by decide) banks
  exact (load_relisted distinct relisted).1

end ComputeTopology.Kfd
