import ComputeTopology.Platform.Basic

/-! # Platforms given by tables

A table lists the objects of a platform and its answers one by one. What a table
does not mention is not reported, and an object without a table is unknown to
the platform. Tables have no lifecycle: they answer the same after a shutdown,
and every shutdown ends the same way.
-/

namespace ComputeTopology

open Attribute

abbrev AnswerTable (selector : Type) := List (selector × Except Reason Value)

def AnswerTable.answer {selector : Type} [BEq selector] (table : AnswerTable selector)
    (asked : selector) (label : String) : Answer :=
  ((table.lookup asked).getD (.error .notReported)).mapError (⟨label, ·⟩)

structure AgentTable where
  answers : AnswerTable AgentAttribute
  regions : Except PlatformError (List RegionHandle)
  caches : Except PlatformError (List CacheHandle)

structure PlatformTable where
  system : AnswerTable SystemAttribute
  agents : Except PlatformError (List AgentHandle)
  agentTables : List (AgentHandle × AgentTable)
  regionTables : List (RegionHandle × AnswerTable RegionAttribute)
  cacheTables : List (CacheHandle × AnswerTable CacheAttribute)
  shutDown : Except PlatformError Unit

namespace PlatformTable

/-- The answer about an object, if it has a table. -/
def answerAbout {kind : ObjectKind} {selector : Type} [BEq selector]
    (tables : List (Handle kind × AnswerTable selector)) (handle : Handle kind)
    (asked : selector) (label : String) : Answer :=
  match tables.lookup handle with
  | none => .error ⟨label, .invalidHandle⟩
  | some table => table.answer asked label

/-- The table of an agent whose objects are listed. -/
def agentTable (table : PlatformTable) (handle : AgentHandle) : Except PlatformError AgentTable :=
  match table.agentTables.lookup handle with
  | none => .error (.invalidHandle ObjectKind.agent.name handle.bits)
  | some found => .ok found

def queries (table : PlatformTable) : Queries where
  system asked := table.system.answer asked asked.label
  agents := table.agents
  regions handle := table.agentTable handle >>= (·.regions)
  caches handle := table.agentTable handle >>= (·.caches)
  agent handle asked :=
    answerAbout (table.agentTables.map (fun (owner, found) => (owner, found.answers))) handle
      asked asked.label
  region handle asked := answerAbout table.regionTables handle asked asked.label
  cache handle asked := answerAbout table.cacheTables handle asked asked.label

end PlatformTable

instance : Platform PlatformTable where
  queries := PlatformTable.queries
  shutDown table := (table.shutDown, table)

end ComputeTopology
