import Mathlib.Data.List.Basic
import ComputeTopology.Proofs.Survey.Outcome

namespace ComputeTopology.Survey

open Attribute

inductive Step where
  | agents
  | device (handle : AgentHandle)
  | regions (handle : AgentHandle)
  | segment (handle : RegionHandle)
  | caches (handle : AgentHandle)
deriving DecidableEq

variable (platform : Queries)

def agentSteps (handle : AgentHandle) : List Step :=
  .device handle :: .regions handle ::
    ((listed (platform.regions handle)).map .segment ++ [.caches handle])

/-- The steps of a survey of the whole platform in order. -/
def steps : List Step :=
  .agents :: (listed platform.agents).flatMap (agentSteps platform)

variable {platform}

end ComputeTopology.Survey
