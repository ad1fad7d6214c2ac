import Mathlib.Data.List.Nodup
import ComputeTopology.Proofs.FileTree.Changes
import ComputeTopology.Proofs.Kfd.Locations
import ComputeTopology.Proofs.Kfd.Outcome
import ComputeTopology.Proofs.Kfd.Reading

namespace ComputeTopology.Kfd

open FileTree

def Locations.nodePlace (locations : Locations) (entry : Numbered) : List String :=
  Path.place (Path.join locations.nodes entry.name)

/-- The files that stand outside of the topology stand outside of this directory too. -/
structure Locations.Outside (locations : Locations) (directory : List String) : Prop where
  pciDevices : Path.Outside directory locations.pciDevices
  cpuInfo : Path.Outside directory locations.cpuInfo
  productTables : ∀ table ∈ locations.productTables, Path.Outside directory table

variable {left right : FileTree} {locations : Locations} {entry other : Numbered}

theorem nodePlace_eq (plain : Path.Plain entry.name) :
    locations.nodePlace entry = Path.place locations.nodes ++ [entry.name] :=
  Path.place_join plain

/-- The places down to the listing of the nodes are above the directory of any node. -/
theorem nodes_not_below (plain : Path.Plain entry.name) {place : List String}
    (short : place.length ≤ (Path.place locations.nodes).length) :
    ¬ locations.nodePlace entry <+: place := by
  intro below
  have long := below.length_le
  rw [nodePlace_eq plain, List.length_append, List.length_singleton] at long
  omega

theorem name_ne_of_number_ne {files : FileTree} {path : String}
    (listed : files.HoldsNumbered path other) (there : right.HoldsNumbered path entry)
    (different : other.number ≠ entry.number) : other.name ≠ entry.name := by
  obtain ⟨_, _, _, _, numeral⟩ := listed
  obtain ⟨_, _, _, _, known⟩ := there
  intro same
  rw [same, known] at numeral
  exact different (Option.some.inj numeral).symm

theorem surroundings_of_outside (differ : DifferBelow (locations.nodePlace entry) left right)
    (listed : left.HoldsNumbered locations.nodes entry)
    (outside : locations.Outside (locations.nodePlace entry)) :
    SurroundingsAlike left right locations := by
  obtain ⟨_, _, _, _, numeral⟩ := listed
  obtain ⟨plain, colonless⟩ := Path.plain_of_word? numeral
  refine {
    cpuInfo := (differ.followed outside.cpuInfo).looksAlike
    productTables := fun table member => (differ.followed (outside.productTables table member)).looksAlike
    revisions := fun domain location => (differ.followed ?_).looksAlike }
  have devices := outside.pciDevices
  rw [nodePlace_eq plain] at devices ⊢
  obtain ⟨address, colon⟩ := Locations.plain_pciAddress domain location
  refine (devices.join address ?_).join (by decide) ?_
  · intro same
    exact colonless (same ▸ colon)
  · intro same
    have unread : (Text.Numeral.word? 10 "revision".toList : Option UInt32) = none := by decide
    rw [same, unread] at numeral
    contradiction

/-- A tree in which a node is listed has directories all along the way there. -/
theorem directories_of_holdsNumbered {files : FileTree}
    (listed : files.HoldsNumbered locations.nodes entry) {place : List String}
    (passes : Path.Passes locations.topologyRoot place) :
    ∃ entries, files.standing? place = some (.directory entries) := by
  obtain ⟨_, _, located, _⟩ := listed
  exact (locate_eq_ok located).1 place ((Path.passes_join (by decide)).mpr (.inl passes))

section Frame

variable (differ : DifferBelow (locations.nodePlace entry) left right)
  (leftListed : left.HoldsNumbered locations.nodes entry)
  (rightListed : right.HoldsNumbered locations.nodes entry)

include differ leftListed rightListed

theorem followed_root : FollowedAlike left right locations.topologyRoot where
  passed := by
    intro place passes
    obtain ⟨entries, l⟩ := directories_of_holdsNumbered leftListed passes
    obtain ⟨others, r⟩ := directories_of_holdsNumbered rightListed passes
    rw [SameKind, l, r]
    rfl
  ended := by
    refine differ.sameOutline (nodes_not_below (plain_of_holdsNumbered leftListed) ?_)
    simp [place_nodes]

theorem followed_beside {name : String} (plain : Path.Plain name) :
    FollowedAlike left right (Path.join locations.topologyRoot name) := by
  refine (followed_root differ leftListed rightListed).join plain (differ.sameOutline ?_)
  refine nodes_not_below (plain_of_holdsNumbered leftListed) ?_
  simp [place_nodes]

theorem frame_alike : FrameAlike left right locations where
  root := (followed_root differ leftListed rightListed).looksAlike
  systemProperties := (followed_beside differ leftListed rightListed (by decide)).looksAlike
  generationId := (followed_beside differ leftListed rightListed (by decide)).looksAlike
  nodes := (followed_beside differ leftListed rightListed (by decide)).looksAlike

/-- Nothing that is read of another node stands below the directory. -/
theorem other_node_alike (listed : left.HoldsNumbered locations.nodes other)
    (different : other.name ≠ entry.name) :
    NodeAlike left right (Path.join locations.nodes other.name) := by
  have nodes : FollowedAlike left right locations.nodes :=
    followed_beside differ leftListed rightListed (by decide)
  refine nodeAlike_of_followed nodes (plain_of_holdsNumbered listed) fun rest _ => ?_
  refine differ.sameOutline fun below => ?_
  rw [nodePlace_eq (plain_of_holdsNumbered leftListed), List.prefix_append_right_inj,
    List.cons_prefix_cons] at below
  exact different below.1.symm

/-- Nodes with other numbers have other names, so that they have the same agents in both. -/
theorem other_agents_eq (outside : locations.Outside (locations.nodePlace entry))
    {others : List Numbered} (listed : ∀ other ∈ others, left.HoldsNumbered locations.nodes other)
    (apart : ∀ other ∈ others, other.number ≠ entry.number) :
    others.flatMap (Source.ofFiles right locations).node =
      others.flatMap (Source.ofFiles left locations).node := by
  refine List.flatMap_congr fun other member => ?_
  have different := name_ne_of_number_ne (listed other member) leftListed (apart other member)
  exact Source.ofFiles_node_alike (surroundings_of_outside differ leftListed outside)
    (other_node_alike differ leftListed rightListed (listed other member) different)

end Frame

theorem split_at_number {entries : List Numbered} (distinct : (entries.map (·.number)).Nodup)
    (member : entry ∈ entries) :
    ∃ before after, entries = before ++ entry :: after ∧
      ∀ other ∈ before ++ after, other.number ≠ entry.number := by
  obtain ⟨before, after, rfl⟩ := List.append_of_mem member
  rw [List.map_append, List.map_cons, List.nodup_middle, ← List.map_append] at distinct
  refine ⟨before, after, rfl, fun other beside same => ?_⟩
  exact (List.nodup_cons.mp distinct).1 (same ▸ List.mem_map_of_mem beside)

theorem nodeId_of_mem_others {source : Source} {others : List Numbered}
    (apart : ∀ other ∈ others, other.number ≠ entry.number) {agent : AgentRecord}
    (member : agent ∈ others.flatMap source.node) : agent.nodeId ≠ entry.number := by
  obtain ⟨other, listed, own⟩ := List.mem_flatMap.mp member
  rw [Source.nodeId_of_mem_node own]
  exact apart other listed

/-- Two trees that differ only below the directory of one node load alike, except for the
    agents of that node: those before and after it are the same ones. -/
theorem load_differs_at_node (differ : DifferBelow (locations.nodePlace entry) left right)
    (leftListed : left.HoldsNumbered locations.nodes entry)
    (rightListed : right.HoldsNumbered locations.nodes entry)
    (distinct : ((left.numberedEntries locations.nodes).map (·.number)).Nodup)
    (outside : locations.Outside (locations.nodePlace entry)) :
    (∃ failure, Snapshot.load left locations = .error failure ∧
        Snapshot.load right locations = .error failure) ∨
      ∃ system before leftOwn rightOwn after,
        Snapshot.load left locations = .ok ⟨system, before ++ leftOwn ++ after⟩ ∧
        Snapshot.load right locations = .ok ⟨system, before ++ rightOwn ++ after⟩ ∧
        (∀ agent ∈ leftOwn ++ rightOwn, agent.nodeId = entry.number) ∧
        ∀ agent ∈ before ++ after, agent.nodeId ≠ entry.number := by
  have frame := frame_alike differ leftListed rightListed
  have framed := load_framed frame
  cases loaded : Snapshot.load left locations with
  | error failure =>
      rw [loaded] at framed
      exact .inl ⟨failure, rfl, framed⟩
  | ok snapshot =>
      rw [loaded] at framed
      obtain ⟨before, after, split, apart⟩ :=
        split_at_number distinct (mem_numberedEntries_iff.mpr leftListed)
      have listed (other : Numbered) (member : other ∈ before ++ after) :
          left.HoldsNumbered locations.nodes other := by
        rw [← mem_numberedEntries_iff, split]
        exact List.perm_middle.mem_iff.mpr (List.mem_cons_of_mem _ member)
      obtain ⟨listedBefore, listedAfter⟩ := List.forall_mem_append.mp listed
      obtain ⟨apartBefore, apartAfter⟩ := List.forall_mem_append.mp apart
      have agents := (load_eq loaded).1
      rw [split, List.flatMap_append, List.flatMap_cons, ← List.append_assoc] at agents framed
      rw [other_agents_eq differ leftListed rightListed outside listedBefore apartBefore,
        other_agents_eq differ leftListed rightListed outside listedAfter apartAfter] at framed
      refine .inr ⟨snapshot.system, before.flatMap (Source.ofFiles left locations).node,
        (Source.ofFiles left locations).node entry, (Source.ofFiles right locations).node entry,
        after.flatMap (Source.ofFiles left locations).node, by rw [← agents], framed, ?_, ?_⟩
      · exact List.forall_mem_append.mpr
          ⟨fun _ => Source.nodeId_of_mem_node, fun _ => Source.nodeId_of_mem_node⟩
      · exact List.forall_mem_append.mpr
          ⟨fun _ => nodeId_of_mem_others apartBefore, fun _ => nodeId_of_mem_others apartAfter⟩

/-- Three nodes, the second with these entries in its directory. -/
def threeNodes (second : List (String × FileTree)) : FileTree :=
  treeOfNodes [
    ("0", .directory [("properties", .file (some "cpu_cores_count 8\n"))]),
    ("1", .directory second),
    ("2", .directory [("properties", .file (some "simd_count 4\n"))])]

def coresAndSimds : List (String × FileTree) :=
  [("properties", .file (some "cpu_cores_count 8\nsimd_count 4\n"))]

theorem load_differs_at_second_node :
    ∃ system before leftOwn rightOwn after,
      Snapshot.load (threeNodes coresAndSimds) rootLocations =
        .ok ⟨system, before ++ leftOwn ++ after⟩ ∧
      Snapshot.load (threeNodes []) rootLocations = .ok ⟨system, before ++ rightOwn ++ after⟩ ∧
      (∀ agent ∈ leftOwn ++ rightOwn, agent.nodeId = 1) ∧
      ∀ agent ∈ before ++ after, agent.nodeId ≠ 1 := by
  have place : rootLocations.nodePlace ⟨1, "1"⟩ = ["topology", "nodes", "1"] := by decide +kernel
  have differ : DifferBelow (rootLocations.nodePlace ⟨1, "1"⟩)
      (threeNodes coresAndSimds) (threeNodes []) := by
    rw [place]
    refine @DifferBelow.inside "topology" _ [] [] _ _ (by decide) ?_
    refine @DifferBelow.inside "nodes" _ [_] [] _ _ (by decide) ?_
    exact @DifferBelow.inside "1" _ [_] [_] _ _ (by decide) .here
  have nodes (second : List (String × FileTree)) :
      (threeNodes second).numberedEntries rootLocations.nodes = [⟨0, "0"⟩, ⟨1, "1"⟩, ⟨2, "2"⟩] := by
    rfl
  have listed (second : List (String × FileTree)) :
      (threeNodes second).HoldsNumbered rootLocations.nodes ⟨1, "1"⟩ := by
    rw [← mem_numberedEntries_iff, nodes]
    decide
  have distinct : (((threeNodes coresAndSimds).numberedEntries rootLocations.nodes).map
      (·.number)).Nodup := by
    rw [nodes]
    decide
  have outside : rootLocations.Outside (rootLocations.nodePlace ⟨1, "1"⟩) := by
    constructor <;> decide +kernel
  have loads : (Snapshot.load (threeNodes []) rootLocations).toOption.isSome = true := by
    decide +kernel
  rcases load_differs_at_node differ (listed _) (listed _) distinct outside with failed | apart
  · obtain ⟨failure, _, failed⟩ := failed
    rw [failed] at loads
    exact absurd loads Bool.false_ne_true
  · exact apart

end ComputeTopology.Kfd
