import Mathlib.Logic.Function.Basic
import ComputeTopology.Proofs.ReportText.Lines

namespace ComputeTopology.ReportText

open Text.Numeral

/-- What of an agent can be told from its section. -/
structure Section where
  nodeId : Option UInt32
  name : String
  deviceClass : DeviceClass
  /-- The place of every region among the global ones, if it has one. -/
  places : List (Option UInt32)
  caches : Nat

def Section.ofAgent (agent : Agent) : Section where
  nodeId := agent.nodeId
  name := shownName agent
  deviceClass := agent.deviceClass
  places := agent.regions.map (·.globalIndex)
  caches := agent.caches.length

/-- A GPU without a name, with figures that do not show to the byte. -/
def nameless : Inventory where
  agents := [{
    nodeId := some 1
    name := ""
    kind := .gpu ⟨some 2, none, none, none, none, some 0⟩
    regions := [⟨.global, none, some false, some 3⟩, ⟨.group, some 65536, none, none⟩]
    caches := [⟨some 2, some 4096, none⟩] }]

end ComputeTopology.ReportText
