import ComputeTopology.Proofs.Diagnostics.Stages
import ComputeTopology.Proofs.Session.Lifecycle

namespace ComputeTopology

theorem Sink.encode_injective {left right : String} (same : Sink.encode left = Sink.encode right) :
    left = right := by
  apply String.toByteArray_inj.mp
  apply ByteArray.ext
  exact Array.toList_inj.mp same

theorem bind_eq_ok_iff {ε α β : Type} {first : Except ε α} {next : α → Except ε β} {result : β} :
    (first >>= next) = .ok result ↔ ∃ value, first = .ok value ∧ next value = .ok result := by
  cases first <;> simp [bind, Except.bind]

namespace Diagnostics

variable {σ : Type} [Platform σ] {platform : σ} {policy : Survey.Policy} {sink : Sink}

/-- The report on a platform, or why there is none. -/
def report (platform : Queries) (policy : Survey.Policy) : Except Failure String := do
  let facts ← Survey.systemFacts platform
  let inventory ← Survey.inventory platform policy
  return ReportText.ofInventory facts inventory

theorem report_eq_ok_iff {platform : Queries} {text : String} :
    report platform policy = .ok text ↔
      ∃ facts inventory, Survey.systemFacts platform = .ok facts ∧
        Survey.inventory platform policy = .ok inventory ∧
        ReportText.ofInventory facts inventory = text := by
  simp only [report, bind_eq_ok_iff, pure, Except.pure, Except.ok.injEq, exists_and_left]

theorem report?_eq_some_iff {platform : Queries} {text : String} :
    report? platform policy = some text ↔ report platform policy = .ok text := by
  have same : report? platform policy = (report platform policy).toOption := by
    unfold report? report
    cases Survey.systemFacts platform with
    | error failure => rfl
    | ok facts => cases Survey.inventory platform policy <;> rfl
  rw [same]
  cases report platform policy <;> simp [Except.toOption]

/-- Write out a report, if there is one, and flush. -/
def deliver (sink : Sink) : Except Failure String → Except RunError Unit × Sink
  | .error failure => (.error (.topology failure), sink)
  | .ok text =>
      let (written, after) := sink.write text
      ((written.bind (fun _ => after.flush)).mapError .io, after)

theorem publish_sink (session : Session.Owner σ) (log : Session.Log σ) (sink : Sink)
    (text : String) : (publish session log sink text).sink = (deliver sink (.ok text)).2 := by
  simp only [publish, deliver]
  obtain ⟨written, after⟩ := sink.write text
  cases written with
  | error message => rfl
  | ok _ =>
      cases after.flush with
      | error message => rfl
      | ok _ => rfl

theorem publish_result {session : Session.Owner σ} (log : Session.Log σ) (sink : Sink)
    (text : String) (ended : (Platform.shutDown session.platform).1 = .ok ()) :
    (publish session log sink text).result = (deliver sink (.ok text)).1 := by
  simp only [publish, deliver]
  obtain ⟨written, after⟩ := sink.write text
  cases written with
  | error message => rfl
  | ok _ =>
      simp only [Except.bind]
      cases after.flush with
      | error message => rfl
      | ok _ =>
          rw [finish, Session.Owner.close_eq, ended]
          rfl

theorem run_of_report_error {failure : Failure} (policy : Survey.Policy) (sink : Sink)
    (failed : report (Platform.queries platform) policy = .error failure) :
    (run (.ok platform) policy sink).result = .error (.topology failure) ∧
      (run (.ok platform) policy sink).sink = sink := by
  unfold report at failed
  cases known : Survey.systemFacts (Platform.queries platform) with
  | error cause =>
      rw [known] at failed
      cases failed
      exact run_of_facts_error policy sink known
  | ok facts =>
      cases surveyed : Survey.inventory (Platform.queries platform) policy with
      | error cause =>
          rw [known, surveyed] at failed
          cases failed
          exact run_of_inventory_error sink known surveyed
      | ok inventory =>
          rw [known, surveyed] at failed
          contradiction

/-- What reaches the sink is the report on the platform as it was started, however the run ends. -/
theorem run_sink (policy : Survey.Policy) (sink : Sink) :
    (run (.ok platform) policy sink).sink =
      (deliver sink (report (Platform.queries platform) policy)).2 := by
  cases reported : report (Platform.queries platform) policy with
  | error failure => exact (run_of_report_error policy sink reported).2
  | ok text =>
      obtain ⟨session, log, rfl, published⟩ := run_of_report sink (report?_eq_some_iff.mpr reported)
      rw [published]
      exact publish_sink session log sink text

theorem run_of_shutDown (policy : Survey.Policy) (sink : Sink)
    (ended : (Platform.shutDown platform).1 = .ok ()) :
    (run (.ok platform) policy sink).result =
        (deliver sink (report (Platform.queries platform) policy)).1 ∧
      (run (.ok platform) policy sink).sink =
        (deliver sink (report (Platform.queries platform) policy)).2 := by
  refine ⟨?_, run_sink policy sink⟩
  cases reported : report (Platform.queries platform) policy with
  | error failure => exact (run_of_report_error policy sink reported).1
  | ok text =>
      obtain ⟨session, log, rfl, published⟩ := run_of_report sink (report?_eq_some_iff.mpr reported)
      rw [published]
      exact publish_result log sink text ended

section Alike

variable {τ : Type} [Platform τ] {other : τ} {log : Session.Log σ} {otherLog : Session.Log τ}

/-- What a shutdown says is lost unless everything else went well, and then it decides. -/
theorem publish_congr (platform : σ) (other : τ) (journals : log.journal = otherLog.journal)
    (serial : Nat) (sink : Sink) (text : String)
    (ended : (Platform.shutDown platform).1 = (Platform.shutDown other).1) :
    (publish ⟨serial, platform, false⟩ log sink text).toOutcome =
      (publish ⟨serial, other, false⟩ otherLog sink text).toOutcome := by
  simp only [publish, abandon, finish, Session.Owner.close_eq,
    Session.Owner.drop_of_unclosed, Session.Log.stop, Session.Log.record, journals, ended]
  obtain ⟨written, after⟩ := sink.write text
  cases written with
  | error message => rfl
  | ok _ => cases after.flush <;> rfl

/-- The runs over two platforms are the same if the surveys are and the shutdowns end alike. -/
theorem run_congr (policy : Survey.Policy) (sink : Sink)
    (facts : Survey.systemFacts (Platform.queries platform) =
      Survey.systemFacts (Platform.queries other))
    (surveys : Survey.inventory (Platform.queries platform) policy =
      Survey.inventory (Platform.queries other) policy)
    (ended : (Platform.shutDown platform).1 = (Platform.shutDown other).1) :
    run (.ok platform) policy sink = run (.ok other) policy sink := by
  simp only [run, conduct, Session.Owner.acquire, Session.Owner.ask, facts, surveys]
  cases Survey.systemFacts (Platform.queries other) with
  | error failure => rfl
  | ok known =>
      cases Survey.inventory (Platform.queries other) policy with
      | error failure => rfl
      | ok inventory => exact publish_congr platform other rfl 0 sink _ ended

end Alike

/-- A run that succeeds has written a whole report. -/
theorem delivered_of_ok {start : Except PlatformError σ}
    (succeeded : (run start policy sink).result = .ok ()) :
    ∃ platform facts inventory, start = .ok platform ∧
      Survey.systemFacts (Platform.queries platform) = .ok facts ∧
      Survey.inventory (Platform.queries platform) policy = .ok inventory ∧
      (run start policy sink).sink.received =
        sink.received ++ Sink.encode (ReportText.ofInventory facts inventory) := by
  rcases endsAt_or_succeeds start policy sink with ⟨stage, failure, ends⟩ | ⟨_, _, delivered⟩
  · rw [ends.failed] at succeeded
    contradiction
  · obtain ⟨platform, text, started, composed, received⟩ := delivered
    obtain ⟨facts, inventory, known, surveyed, rfl⟩ := report_eq_ok_iff.mp (report?_eq_some_iff.mp composed)
    exact ⟨platform, facts, inventory, started, known, surveyed, received⟩

theorem deliver_of_unlimited (text : String) (unlimited : sink.room = none) :
    deliver sink (.ok text) =
      (sink.flush.mapError .io, { sink with received := sink.received ++ Sink.encode text }) := by
  simp only [deliver, Sink.write, unlimited, Except.bind]
  rfl

theorem exitCode_ne_zero (failure : RunError) : failure.exitCode ≠ 0 := by
  unfold RunError.exitCode
  split <;> decide

theorem exitCode_congr {left right : Outcome} (ends : left.result = right.result) :
    left.exitCode = right.exitCode := by
  simp only [Outcome.exitCode, ends]

theorem report_of_exitCode (ended : (Platform.shutDown platform).1 = .ok ())
    (unlimited : sink.room = none) (clean : (run (.ok platform) policy sink).exitCode = 0) :
    ∃ text, report (Platform.queries platform) policy = .ok text ∧
      (run (.ok platform) policy sink).sink.received = sink.received ++ Sink.encode text := by
  obtain ⟨ends, leaves⟩ := run_of_shutDown policy sink ended
  cases reported : report (Platform.queries platform) policy with
  | error failure =>
      rw [reported] at ends
      rw [Outcome.exitCode, ends] at clean
      exact absurd clean (exitCode_ne_zero (.topology failure))
  | ok text =>
      rw [reported, deliver_of_unlimited _ unlimited] at leaves
      exact ⟨text, rfl, congrArg Sink.received leaves⟩

end Diagnostics

end ComputeTopology
