import ComputeTopology.Diagnostics.Sink
import ComputeTopology.ReportText
import ComputeTopology.Session

/-! # Diagnostics

A run opens a session, asks for the facts and then for the inventory, writes the
report, flushes and closes the session. The report is composed before anything
is written, so a platform that fails leaves the sink alone. Whatever fails first
is what the run reports, and its session goes out of scope unless it was closed.
-/

namespace ComputeTopology.Diagnostics

inductive RunError where
  | topology (failure : Failure)
  | captureUnreadable (path message : String)
  | captureInvalid (path message : String)
  | io (message : String)
deriving DecidableEq

namespace RunError

def message : RunError → String
  | .topology failure => failure.message
  | .captureUnreadable path message => "cannot read fixture " ++ path ++ ": " ++ message
  | .captureInvalid path message => "invalid fixture " ++ path ++ ": " ++ message
  | .io message => "IO error: " ++ message

def exitCode : RunError → UInt8
  | .topology (.initialization _ _) => 69
  | .topology (.classification _ _) => 65
  | .topology (.traversal _ _) => 74
  | .topology (.shutdown _ _) => 70
  | .captureUnreadable _ _ => 66
  | .captureInvalid _ _ => 65
  | .io _ => 74

end RunError

/-- How a run ended, what the sink holds then, and what became of the platform. -/
structure Outcome where
  result : Except RunError Unit
  sink : Sink
  journal : List Session.Event

/-- Zero, or the code of the error. -/
def Outcome.exitCode (outcome : Outcome) : UInt8 :=
  match outcome.result with
  | .ok () => 0
  | .error failure => failure.exitCode

/-- An outcome, and what the shutdown left of the platform. -/
structure Ending (σ : Type) extends Outcome where
  remains : List (Nat × σ)

variable {σ : Type} [Platform σ]

/-- The end of a run that failed with its session still open. -/
def abandon (session : Session.Owner σ) (log : Session.Log σ) (sink : Sink) (failure : RunError) :
    Ending σ :=
  let last := session.drop log
  { result := .error failure, sink, journal := last.journal, remains := last.remains }

/-- The end of a run whose report is out. -/
def finish (session : Session.Owner σ) (log : Session.Log σ) (sink : Sink) : Ending σ :=
  let (closed, last) := session.close log
  { result := closed.mapError .topology, sink, journal := last.journal, remains := last.remains }

def publish (session : Session.Owner σ) (log : Session.Log σ) (sink : Sink) (text : String) :
    Ending σ :=
  let (delivered, after) := sink.write text
  let written := log.record (.written (after.received.length - sink.received.length))
  match delivered with
  | .error message => abandon session written after (.io message)
  | .ok () =>
      let flushed := written.record .flushed
      match after.flush with
      | .error message => abandon session flushed after (.io message)
      | .ok () => finish session flushed after

/-- One run over a platform that was started, or did not start, to its end. -/
def conduct (start : Except PlatformError σ) (policy : Survey.Policy) (sink : Sink) : Ending σ :=
  match Session.Owner.acquire start .empty with
  | (.error failure, log) =>
      { result := .error (.topology failure), sink, journal := log.journal, remains := log.remains }
  | (.ok session, log) =>
      match session.ask Survey.systemFacts log with
      | (.error failure, asked) => abandon session asked sink (.topology failure)
      | (.ok facts, asked) =>
          match session.ask (Survey.inventory · policy) asked with
          | (.error failure, surveyed) => abandon session surveyed sink (.topology failure)
          | (.ok inventory, surveyed) =>
              publish session surveyed sink (ReportText.ofInventory facts inventory)

/-- The outcome of a run. -/
def run (start : Except PlatformError σ) (policy : Survey.Policy) (sink : Sink) : Outcome :=
  (conduct start policy sink).toOutcome

end ComputeTopology.Diagnostics
