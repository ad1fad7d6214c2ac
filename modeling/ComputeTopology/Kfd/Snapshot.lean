import ComputeTopology.Kfd.Node

/-! # Snapshots of the kernel's topology

The topology is read once and kept. Only a missing topology and unreadable
system properties are errors. The nodes are read in numeric order, and all their
agents are kept in that order.
-/

namespace ComputeTopology.Kfd

inductive SnapshotError where
  | noTopology (root : String)
  | systemProperties (failure : Unreadable)
deriving DecidableEq

def SnapshotError.message : SnapshotError → String
  | .noTopology root => "KFD topology not found at " ++ root
  | .systemProperties failure => "Failed to read system properties: " ++ failure.message

structure Snapshot where
  system : SystemRecord
  agents : List AgentRecord
deriving DecidableEq

namespace Snapshot

def systemRecord (files : FileTree) (locations : Locations) (properties : Properties) (nodes : Nat) :
    SystemRecord where
  generationId := (files.readTrimmed locations.generationId).bind
    (fun text => Text.Numeral.word? 10 text.toList)
  platformOem := properties.word? "platform_oem"
  platformId := properties.word? "platform_id"
  platformRevision := properties.word? "platform_rev"
  nodeCount := UInt32.ofNat (min nodes (UInt32.size - 1))

def load (files : FileTree) (locations : Locations) : Except SnapshotError Snapshot :=
  if files.isDirectory locations.topologyRoot then
    match Properties.read files locations.systemProperties with
    | .error failure => .error (.systemProperties failure)
    | .ok properties =>
        let nodes := files.numberedEntries locations.nodes
        .ok {
          system := systemRecord files locations properties nodes.length
          agents := nodes.flatMap (Source.ofFiles files locations).node }
  else .error (.noTopology locations.topologyRoot)

end Snapshot

end ComputeTopology.Kfd
