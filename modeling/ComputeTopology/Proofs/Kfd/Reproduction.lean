import ComputeTopology.Proofs.Capture.Recording
import ComputeTopology.Proofs.Kfd.Outcome

namespace ComputeTopology.Kfd

open Diagnostics

theorem reached_objectHandles {kind : ObjectKind} {α β : Type} (driver : Driver)
    (objects : AgentRecord → List α) (handle : AgentHandle) (record : Handle kind → β) :
    Capture.Replay.reached ((Survey.listed (driver.objectHandles objects handle)).map record) =
      (Survey.listed (driver.objectHandles objects handle)).map record := by
  unfold Driver.objectHandles
  cases driver.agentRecord handle with
  | error failure => rfl
  | ok owner => exact Capture.Replay.reached_map_ofPlaces _ _ _

/-- A record of what the driver answers leads to all its objects, however many there are. -/
theorem reached_ofAnswers (driver : Driver) (handle : AgentHandle) :
    (Capture.Agent.ofAnswers driver.queries handle).reached = .ofAnswers driver.queries handle := by
  have regions := reached_objectHandles driver AgentRecord.regions handle
    (Capture.Region.ofAnswers driver.queries)
  have caches := reached_objectHandles driver AgentRecord.caches handle
    (Capture.Cache.ofAnswers driver.queries)
  exact congrArg₂ (fun regions caches =>
    { Capture.Agent.ofAnswers driver.queries handle with regions, caches }) regions caches

section Loaded

variable {files : FileTree} {locations : Locations} {snapshot : Snapshot} {policy : Survey.Policy}

theorem report_capture (snapshot : Snapshot) (policy : Survey.Policy) :
    report (Capture.Replay.start snapshot.capture).queries policy =
      (Survey.inventory ({ snapshot, initialized := true } : Driver).queries policy).map
        (ReportText.ofInventory
          { snapshot.facts with nodeCount := Word.ofNat? snapshot.agents.length }) := by
  rw [report, systemFacts_capture, inventory_replay]
  rfl

theorem recordable_of_surveyed {inventory : Inventory}
    (surveyed : Survey.inventory ({ snapshot, initialized := true } : Driver).queries policy =
      .ok inventory) :
    ∀ agent ∈ inventory.agents, Capture.Recordable policy agent := by
  obtain rfl := Survey.found_of_inventory surveyed
  intro agent member
  obtain ⟨handle, listed, found⟩ := List.mem_filterMap.mp member
  refine ⟨.ofAnswers ({ snapshot, initialized := true } : Driver).queries handle, ?_, ?_⟩
  · rw [reached_ofAnswers, Capture.described?_ofAnswers, found]
  · rintro rfl
    have clear := Survey.faults_of_failFast surveyed
    exact Capture.classified_ofAnswers (List.flatMap_eq_nil_iff.mp clear handle listed)

theorem surveyed_length {inventory : Inventory}
    (surveyed : Survey.inventory ({ snapshot, initialized := true } : Driver).queries policy =
      .ok inventory) :
    inventory.agents.length ≤ snapshot.agents.length ∧
      (policy = .failFast → inventory.agents.length = snapshot.agents.length) := by
  obtain rfl := Survey.found_of_inventory surveyed
  have size : ((List.range snapshot.agents.length).map Handle.ofPlace).length =
      snapshot.agents.length := by
    rw [List.length_map, List.length_range]
  constructor
  · exact (List.length_filterMap_le _ _).trans (Nat.le_of_eq size)
  · rintro rfl
    have clear := Survey.faults_of_failFast surveyed
    rw [← size]
    exact Capture.length_found rfl clear

/-- A strict survey that succeeds has met no unreadable node, unless there are more
    agents than a count can tell. -/
theorem readable_of_surveyed {inventory : Inventory}
    (loaded : Snapshot.load files locations = .ok snapshot)
    (few : snapshot.agents.length < UInt32.size)
    (surveyed : Survey.inventory ({ snapshot, initialized := true } : Driver).queries .failFast =
      .ok inventory) :
    NodesReadable files locations := by
  by_contra unreadable
  have unclear := mt (load_classified_iff loaded).mp unreadable
  obtain ⟨object, cause, failed⟩ :=
    Capture.Topology.settle_of_not_classified unclear snapshot.inventory
  rw [inventory_driver few, failed] at surveyed
  contradiction

theorem exists_report_eq (loaded : Snapshot.load files locations = .ok snapshot)
    (covered : policy = .failFast → NodesReadable files locations →
      snapshot.system.nodeCount.toNat ≤ snapshot.agents.length) :
    ∃ topology : Capture.Topology, report (Capture.Replay.start topology).queries policy =
      report ({ snapshot, initialized := true } : Driver).queries policy := by
  rw [report_driver]
  cases surveyed : Survey.inventory ({ snapshot, initialized := true } : Driver).queries policy with
  | error failure =>
      refine ⟨snapshot.capture, ?_⟩
      rw [report_capture, surveyed]
      rfl
  | ok inventory =>
      obtain ⟨atMost, all⟩ := surveyed_length surveyed
      have enough : policy = .failFast →
          snapshot.system.nodeCount.toNat ≤ inventory.agents.length := by
        rintro rfl
        rw [all rfl]
        by_cases few : snapshot.agents.length < UInt32.size
        · exact covered rfl (readable_of_surveyed loaded few surveyed)
        · have bounded := snapshot.system.nodeCount.toNat_lt_size
          omega
      have positive : inventory.agents ≠ [] → 0 < snapshot.system.nodeCount.toNat := by
        intro some_found
        have found := List.length_pos_of_ne_nil some_found
        exact load_nodeCount_pos loaded (List.ne_nil_of_length_pos (Nat.lt_of_lt_of_le found atMost))
      exact Capture.exists_report rfl (recordable_of_surveyed surveyed) enough positive

theorem run_of_capture (topology : Capture.Topology) (policy : Survey.Policy) (sink : Sink) :
    (run (.ok (Capture.Replay.start topology)) policy sink).result =
        (deliver sink (report (Capture.Replay.start topology).queries policy)).1 ∧
      (run (.ok (Capture.Replay.start topology)) policy sink).sink =
        (deliver sink (report (Capture.Replay.start topology).queries policy)).2 :=
  run_of_shutDown policy sink rfl

/-- The replay of a captured snapshot ends like a run over its file tree, and what both
    print differs at most in the number of nodes, for which a capture has that of its
    agents. The very same is printed by the replay of some capture, unless a strict run
    goes well over more nodes than there are agents. -/
theorem run_reproduced (loaded : Snapshot.load files locations = .ok snapshot)
    (policy : Survey.Policy) :
    (∀ sink : Sink, sink.room = none →
      let kernel := run (Driver.start files locations) policy sink
      let replayed := run (.ok (Capture.Replay.start snapshot.capture)) policy sink
      replayed.result = kernel.result ∧ replayed.exitCode = kernel.exitCode ∧
        (replayed.sink = sink ∧ kernel.sink = sink ∨
          ∃ inventory,
            kernel.sink.received =
              sink.received ++ Sink.encode (ReportText.ofInventory snapshot.facts inventory) ∧
            replayed.sink.received = sink.received ++ Sink.encode (ReportText.ofInventory
              { snapshot.facts with nodeCount := Word.ofNat? snapshot.agents.length } inventory))) ∧
    ((policy = .failFast → NodesReadable files locations →
        snapshot.system.nodeCount.toNat ≤ snapshot.agents.length) →
      ∃ topology : Capture.Topology, ∀ sink : Sink,
        let kernel := run (Driver.start files locations) policy sink
        let replayed := run (.ok (Capture.Replay.start topology)) policy sink
        replayed.result = kernel.result ∧ replayed.exitCode = kernel.exitCode ∧
          replayed.sink = kernel.sink) := by
  constructor
  · intro sink unlimited kernel replayed
    obtain ⟨kernelEnds, kernelLeaves⟩ := run_of_loaded loaded policy sink
    obtain ⟨replayEnds, replayLeaves⟩ := run_of_capture snapshot.capture policy sink
    rw [report_driver] at kernelEnds kernelLeaves
    rw [report_capture] at replayEnds replayLeaves
    cases surveyed : Survey.inventory ({ snapshot, initialized := true } : Driver).queries policy with
    | error failure =>
        rw [surveyed] at kernelEnds kernelLeaves replayEnds replayLeaves
        have ends : replayed.result = kernel.result := replayEnds.trans kernelEnds.symm
        exact ⟨ends, exitCode_congr ends, .inl ⟨replayLeaves, kernelLeaves⟩⟩
    | ok inventory =>
        rw [surveyed, Except.map, deliver_of_unlimited _ unlimited] at kernelEnds kernelLeaves
        rw [surveyed, Except.map, deliver_of_unlimited _ unlimited] at replayEnds replayLeaves
        have ends : replayed.result = kernel.result := replayEnds.trans kernelEnds.symm
        refine ⟨ends, exitCode_congr ends, .inr ⟨inventory, ?_, ?_⟩⟩
        · exact congrArg Sink.received kernelLeaves
        · exact congrArg Sink.received replayLeaves
  · intro covered
    obtain ⟨topology, same⟩ := exists_report_eq loaded covered
    refine ⟨topology, fun sink => ?_⟩
    intro kernel replayed
    obtain ⟨kernelEnds, kernelLeaves⟩ := run_of_loaded loaded policy sink
    obtain ⟨replayEnds, replayLeaves⟩ := run_of_capture topology policy sink
    rw [same] at replayEnds replayLeaves
    have ends : replayed.result = kernel.result := replayEnds.trans kernelEnds.symm
    exact ⟨ends, exitCode_congr ends, replayLeaves.trans kernelLeaves.symm⟩

end Loaded

/-- One node with a CPU and a GPU. -/
def shared : FileTree :=
  .directory [("topology", .directory [
    ("system_properties", .file (some "")),
    ("nodes", .directory [
      ("0", .directory [("properties", .file (some "cpu_cores_count 8\nsimd_count 4\n"))])])])]

theorem run_reproduced_shared :
    (run (Driver.start shared rootLocations) .failFast .unlimited).result = .ok () ∧
      ∃ topology : Capture.Topology, ∀ sink : Sink,
        let kernel := run (Driver.start shared rootLocations) .failFast sink
        let replayed := run (.ok (Capture.Replay.start topology)) .failFast sink
        replayed.result = kernel.result ∧ replayed.exitCode = kernel.exitCode ∧
          replayed.sink = kernel.sink := by
  have loaded : Snapshot.load shared rootLocations = .ok {
      system := ⟨none, none, none, none, 1⟩
      agents := [
        { AgentRecord.ofNode 0 with deviceClass := some .cpu, computeUnits := some 8 },
        { AgentRecord.ofNode 0 with deviceClass := some .gpu }] } := by
    decide +kernel
  constructor
  · have readable : NodesReadable shared rootLocations := by
      rw [← load_classified_iff loaded, capture_classified_iff]
      decide
    refine (run_of_readable loaded ?_ (fun _ => readable) rfl rfl).1
    simp [Capture.Topology.Addressable, Snapshot.capture, AgentRecord.capture, AgentRecord.ofNode,
      UInt32.size]
  · exact (run_reproduced loaded .failFast).2 (fun _ _ => by decide)

/-- One node with neither a CPU nor a GPU. -/
def idle : FileTree :=
  .directory [("topology", .directory [
    ("system_properties", .file (some "")),
    ("nodes", .directory [
      ("0", .directory [("properties", .file (some "cpu_cores_count 0\nsimd_count 0\n"))])])])]

def Snapshot.idle : Snapshot where
  system := ⟨none, none, none, none, 1⟩
  agents := []

/-- A strict run counts the node and has no section, which the replay of a capture
    never does. -/
theorem idle_not_reproduced :
    (∃ snapshot, Snapshot.load idle rootLocations = .ok snapshot) ∧
      ¬∃ topology : Capture.Topology,
        let kernel := run (Driver.start idle rootLocations) .failFast .unlimited
        let replayed := run (.ok (Capture.Replay.start topology)) .failFast .unlimited
        replayed.sink.received = kernel.sink.received ∧ replayed.exitCode = kernel.exitCode := by
  have loaded : Snapshot.load idle rootLocations = .ok .idle := by decide +kernel
  refine ⟨⟨.idle, loaded⟩, ?_⟩
  rintro ⟨topology, received, exits⟩
  have composed : report (Driver.queries ⟨.idle, true⟩) .failFast =
      .ok (ReportText.ofInventory Snapshot.idle.facts ⟨[]⟩) := by
    rw [report_of_few (by decide)]
    rfl
  obtain ⟨kernelEnds, kernelLeaves⟩ := run_of_loaded loaded .failFast .unlimited
  rw [composed, deliver_of_unlimited _ rfl] at kernelEnds kernelLeaves
  have clean : (run (.ok (Capture.Replay.start topology)) .failFast .unlimited).exitCode = 0 := by
    rw [exits, Outcome.exitCode, kernelEnds]
    rfl
  obtain ⟨text, reported, printed⟩ := report_of_exitCode rfl rfl clean
  obtain ⟨facts, inventory, rfl, counted⟩ := Capture.strict_report reported
  have same : ReportText.ofInventory facts inventory =
      ReportText.ofInventory Snapshot.idle.facts ⟨[]⟩ := by
    rw [printed, kernelLeaves] at received
    exact Sink.encode_injective (List.append_cancel_left received)
  obtain ⟨agents⟩ := inventory
  cases agents with
  | nil =>
      obtain ⟨front, shown⟩ := ReportText.ofInventory_of_counted counted
      have idleCounted : Snapshot.idle.facts.nodeCount = some 1 := rfl
      obtain ⟨idleFront, idleShown⟩ := ReportText.ofInventory_of_counted idleCounted
      rw [same, idleShown] at shown
      have ends := List.append_inj_right' shown (by decide +kernel)
      exact absurd ends (by decide +kernel)
  | cons agent rest =>
      have dashes := ReportText.dashes_of_agent facts agent rest
      rw [same] at dashes
      exact absurd dashes (by decide +kernel)

end ComputeTopology.Kfd
