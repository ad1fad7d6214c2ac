import ComputeTopology.Capture.Replay
import ComputeTopology.Capture.Reader
import ComputeTopology.CommandLine.Basic
import ComputeTopology.Diagnostics.Basic
import ComputeTopology.Kfd.Driver

/-! # Execution

An invocation runs the diagnostics over a capture if it names one, and over the
topology of the kernel driver otherwise. What is said of a text that describes no
topology comes from outside.
-/

namespace ComputeTopology.Diagnostics

def loadCapture (files : FileTree) (path : String) (complaint : String → String := fun _ => "") :
    Except RunError Capture.Topology :=
  match files.readText path with
  | .error failure => .error (.captureUnreadable path failure.message)
  | .ok text =>
      match Capture.read? text with
      | some topology => .ok topology
      | none => .error (.captureInvalid path (complaint text))

def policyOf (invocation : CommandLine.Invocation) : Survey.Policy :=
  if invocation.keepGoing then .skipObject else .failFast

def execute (files : FileTree) (environment : CommandLine.Environment)
    (invocation : CommandLine.Invocation) (sink : Sink)
    (complaint : String → String := fun _ => "") : Outcome :=
  let policy := policyOf invocation
  match invocation.capture with
  | none => run (Kfd.Driver.start files (invocation.locations environment)) policy sink
  | some path =>
      match loadCapture files path complaint with
      | .error failure => { result := .error failure, sink, journal := [] }
      | .ok topology => run (.ok (Capture.Replay.start topology)) policy sink

end ComputeTopology.Diagnostics
