import ComputeTopology.Proofs.Diagnostics.Delivery
import ComputeTopology.Proofs.Kfd.Survey

namespace ComputeTopology.Kfd

open Diagnostics

variable {files : FileTree} {locations : Locations} {policy : Survey.Policy} {sink : Sink}

theorem few_agents {snapshot : Snapshot} (few : snapshot.capture.Addressable) :
    snapshot.agents.length < UInt32.size := by
  rw [← List.length_map (f := AgentRecord.capture)]
  exact few.1

theorem report_driver (snapshot : Snapshot) (policy : Survey.Policy) :
    report ({ snapshot, initialized := true } : Driver).queries policy =
      (Survey.inventory ({ snapshot, initialized := true } : Driver).queries policy).map
        (ReportText.ofInventory snapshot.facts) := by
  rw [report, systemFacts_driver]
  rfl

theorem report_of_few {snapshot : Snapshot} (few : snapshot.agents.length < UInt32.size)
    (policy : Survey.Policy) :
    report ({ snapshot, initialized := true } : Driver).queries policy =
      policy.settle snapshot.capture.unclassified
        (ReportText.ofInventory snapshot.facts snapshot.inventory) := by
  rw [report_driver, inventory_driver few,
    Survey.Policy.settle_map (ReportText.ofInventory snapshot.facts)]

theorem run_of_loaded {snapshot : Snapshot} (loaded : Snapshot.load files locations = .ok snapshot)
    (policy : Survey.Policy) (sink : Sink) :
    (run (Driver.start files locations) policy sink).result =
        (deliver sink (report ({ snapshot, initialized := true } : Driver).queries policy)).1 ∧
      (run (Driver.start files locations) policy sink).sink =
        (deliver sink (report ({ snapshot, initialized := true } : Driver).queries policy)).2 := by
  rw [Driver.start, loaded]
  exact run_of_shutDown policy sink rfl

theorem run_of_unloadable (unloadable : ¬Loadable files locations) (policy : Survey.Policy)
    (sink : Sink) :
    ∃ cause, (run (Driver.start files locations) policy sink).result =
      .error (.topology (.initialization "runtime initialization" cause)) := by
  unfold Driver.start
  cases loaded : Snapshot.load files locations with
  | ok snapshot => exact absurd (load_ok_iff.mp ⟨snapshot, loaded⟩) unloadable
  | error failure => exact ⟨.unavailable failure.message, rfl⟩

section Loaded

variable {snapshot : Snapshot}

theorem run_of_unreadable (loaded : Snapshot.load files locations = .ok snapshot)
    (few : snapshot.agents.length < UInt32.size) (unreadable : ¬NodesReadable files locations)
    (sink : Sink) :
    ∃ object cause, (run (Driver.start files locations) .failFast sink).result =
      .error (.topology (.classification object cause)) := by
  have unclear := mt (load_classified_iff loaded).mp unreadable
  obtain ⟨object, cause, failed⟩ := Capture.Topology.settle_of_not_classified unclear
    (ReportText.ofInventory snapshot.facts snapshot.inventory)
  refine ⟨object, cause, ?_⟩
  rw [(run_of_loaded loaded .failFast sink).1, report_of_few few, failed]
  rfl

theorem run_of_readable (loaded : Snapshot.load files locations = .ok snapshot)
    (few : snapshot.capture.Addressable)
    (readable : policy = .failFast → NodesReadable files locations)
    (unlimited : sink.room = none) (flushed : sink.flushMessage = none) :
    (run (Driver.start files locations) policy sink).result = .ok () ∧
      (run (Driver.start files locations) policy sink).sink.received =
        sink.received ++
          Sink.encode (ReportText.ofInventory snapshot.facts snapshot.capture.inventory) := by
  have slight := few_agents few
  have clear : policy = .failFast → snapshot.capture.Classified := fun strict =>
    (load_classified_iff loaded).mpr (readable strict)
  obtain ⟨result, left⟩ := run_of_loaded loaded policy sink
  rw [report_of_few slight, Capture.Topology.settle_of_classified clear,
    inventory_of_addressable few, deliver_of_unlimited _ unlimited] at result left
  have flushes : sink.flush = .ok () := by rw [Sink.flush, flushed]
  exact ⟨by rw [result, flushes]; rfl, by rw [left]⟩

end Loaded

/-- A run whose sink takes everything fails to start exactly if the topology cannot be
    loaded. A strict one goes on to fail exactly if the properties of a node cannot be
    read, with a classification. All other runs write out the report on all agents that
    have a class. -/
theorem run_exits (files : FileTree) (locations : Locations) (policy : Survey.Policy) (sink : Sink)
    (few : ∀ snapshot, Snapshot.load files locations = .ok snapshot →
      snapshot.capture.Addressable)
    (unlimited : sink.room = none) (flushed : sink.flushMessage = none) :
    let outcome := run (Driver.start files locations) policy sink
    (outcome.exitCode = 69 ↔ ¬Loadable files locations) ∧
      (Loadable files locations →
        (outcome.exitCode = 65 ↔ policy = .failFast ∧ ¬NodesReadable files locations)) ∧
      (Loadable files locations → (policy = .failFast → NodesReadable files locations) →
        outcome.exitCode = 0 ∧
          ∃ snapshot, Snapshot.load files locations = .ok snapshot ∧
            outcome.sink.received = sink.received ++
              Sink.encode (ReportText.ofInventory snapshot.facts snapshot.capture.inventory)) ∧
      (∀ call cause, outcome.result ≠ .error (.topology (.traversal call cause))) ∧
      ∀ call cause, outcome.result ≠ .error (.topology (.shutdown call cause)) := by
  intro outcome
  by_cases loadable : Loadable files locations
  · obtain ⟨snapshot, loaded⟩ := load_ok_iff.mpr loadable
    have addressable := few snapshot loaded
    by_cases readable : policy = .failFast → NodesReadable files locations
    · obtain ⟨result, received⟩ := run_of_readable loaded addressable readable unlimited flushed
      have ended : outcome.result = .ok () := result
      have code : outcome.exitCode = 0 := by rw [Outcome.exitCode, ended]
      refine ⟨?_, fun _ => ?_, fun _ _ => ⟨code, snapshot, loaded, received⟩, ?_, ?_⟩
      · rw [code]
        exact iff_of_false (by decide) (not_not_intro loadable)
      · rw [code]
        exact iff_of_false (by decide) (fun met => met.2 (readable met.1))
      all_goals simp [ended]
    · obtain ⟨rfl, unreadable⟩ := Classical.not_imp.mp readable
      have slight := few_agents addressable
      obtain ⟨object, cause, result⟩ := run_of_unreadable loaded slight unreadable sink
      have ended : outcome.result = .error (.topology (.classification object cause)) := result
      have code : outcome.exitCode = 65 := by rw [Outcome.exitCode, ended]; rfl
      refine ⟨?_, fun _ => ?_, fun _ readable => absurd (readable rfl) unreadable, ?_, ?_⟩
      · rw [code]
        exact iff_of_false (by decide) (not_not_intro loadable)
      · exact iff_of_true code ⟨rfl, unreadable⟩
      all_goals simp [ended]
  · obtain ⟨cause, result⟩ := run_of_unloadable loadable policy sink
    have ended : outcome.result =
        .error (.topology (.initialization "runtime initialization" cause)) := result
    have code : outcome.exitCode = 69 := by rw [Outcome.exitCode, ended]; rfl
    refine ⟨iff_of_true code loadable, fun loaded => absurd loaded loadable,
      fun loaded => absurd loaded loadable, ?_, ?_⟩
    all_goals simp [ended]

/-- Two nodes, the second without properties. -/
def halfReadable : FileTree :=
  .directory [("topology", .directory [
    ("system_properties", .file (some "")),
    ("nodes", .directory [
      ("0", .directory [("properties", .file (some "cpu_cores_count 8\n"))]),
      ("1", .directory [])])])]

def rootLocations : Locations :=
  { Locations.ofEnvironment [] with topologyRoot := "/topology" }

/-- A tree with a topology of these nodes. -/
def treeOfNodes (nodes : List (String × FileTree)) : FileTree :=
  .directory [("topology", .directory [
    ("system_properties", .file (some "")), ("nodes", .directory nodes)])]

theorem run_exits_halfReadable :
    (run (Driver.start halfReadable rootLocations) .failFast .unlimited).exitCode = 65 ∧
      (run (Driver.start halfReadable rootLocations) .skipObject .unlimited).exitCode = 0 := by
  have loaded : Snapshot.load halfReadable rootLocations = .ok {
      system := ⟨none, none, none, none, 2⟩
      agents := [
        { AgentRecord.ofNode 0 with deviceClass := some .cpu, computeUnits := some 8 },
        AgentRecord.ofNode 1] } := by
    decide +kernel
  have few (snapshot : Snapshot) (found : Snapshot.load halfReadable rootLocations = .ok snapshot) :
      snapshot.capture.Addressable := by
    rw [loaded] at found
    cases found
    simp [Capture.Topology.Addressable, Snapshot.capture, AgentRecord.capture, AgentRecord.ofNode,
      UInt32.size]
  have loadable : Loadable halfReadable rootLocations := load_ok_iff.mp ⟨_, loaded⟩
  have unreadable : ¬NodesReadable halfReadable rootLocations := by
    rw [← load_classified_iff loaded, capture_classified_iff]
    decide
  obtain ⟨_, strict, _⟩ := run_exits halfReadable rootLocations .failFast .unlimited few rfl rfl
  obtain ⟨_, _, lenient, _⟩ := run_exits halfReadable rootLocations .skipObject .unlimited few rfl rfl
  refine ⟨(strict loadable).mpr ⟨rfl, unreadable⟩, (lenient loadable ?_).1⟩
  intro strict
  contradiction

end ComputeTopology.Kfd
