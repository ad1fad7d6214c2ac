import ComputeTopology.Platform.Basic

/-! # Calls

Everything a platform can be called for, queries and the shutdown alike. Calls
are made one after another. Only the shutdown moves the platform to another
state, and no call stops the ones after it.
-/

namespace ComputeTopology

inductive Call where
  | system (selector : SystemAttribute)
  | agents
  | regions (handle : AgentHandle)
  | caches (handle : AgentHandle)
  | agent (handle : AgentHandle) (selector : AgentAttribute)
  | region (handle : RegionHandle) (selector : RegionAttribute)
  | cache (handle : CacheHandle) (selector : CacheAttribute)
  | shutDown
deriving DecidableEq

inductive Call.Reply where
  | answer (answer : Attribute.Answer)
  | agents (handles : Except PlatformError (List AgentHandle))
  | regions (handles : Except PlatformError (List RegionHandle))
  | caches (handles : Except PlatformError (List CacheHandle))
  | shutDown (outcome : Except PlatformError Unit)

/-- What a platform in one state says to a query, nothing to a shutdown. -/
def Queries.reply? (platform : Queries) : Call → Option Call.Reply
  | .system selector => some (.answer (platform.system selector))
  | .agents => some (.agents platform.agents)
  | .regions handle => some (.regions (platform.regions handle))
  | .caches handle => some (.caches (platform.caches handle))
  | .agent handle selector => some (.answer (platform.agent handle selector))
  | .region handle selector => some (.answer (platform.region handle selector))
  | .cache handle selector => some (.answer (platform.cache handle selector))
  | .shutDown => none

namespace Platform

variable {σ : Type} [Platform σ]

def call (platform : σ) (made : Call) : Call.Reply × σ :=
  match (queries platform).reply? made with
  | some reply => (reply, platform)
  | none =>
      let (outcome, next) := shutDown platform
      (.shutDown outcome, next)

def calls (platform : σ) : List Call → List Call.Reply × σ
  | [] => ([], platform)
  | first :: rest =>
      let (reply, next) := call platform first
      let (replies, last) := calls next rest
      (reply :: replies, last)

end Platform

end ComputeTopology
