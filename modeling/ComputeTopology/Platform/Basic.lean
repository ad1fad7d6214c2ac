import ComputeTopology.Attribute.Selector
import ComputeTopology.Handle
import ComputeTopology.Platform.Error

/-! # Platforms

A platform lists its agents, their regions and their caches, each list in an
order of its own, and answers attribute queries about them. Asking changes
nothing, so all the queries of a platform in one state are a plain record of
functions. Only shutting down moves a platform to another state.
-/

namespace ComputeTopology

/-- Everything a platform can be asked in one of its states. -/
structure Queries where
  system : SystemAttribute → Attribute.Answer
  agents : Except PlatformError (List AgentHandle)
  regions : AgentHandle → Except PlatformError (List RegionHandle)
  caches : AgentHandle → Except PlatformError (List CacheHandle)
  agent : AgentHandle → AgentAttribute → Attribute.Answer
  region : RegionHandle → RegionAttribute → Attribute.Answer
  cache : CacheHandle → CacheAttribute → Attribute.Answer

/-- A type of platform states. -/
class Platform (σ : Type) where
  queries : σ → Queries
  shutDown : σ → Except PlatformError Unit × σ

namespace Queries

open Attribute

variable {α : Type} [Readable α] (platform : Queries)

def systemAs (α : Type) [Readable α] (selector : SystemAttribute) : Except Unavailable α :=
  (platform.system selector).read selector.label

def agentAs (α : Type) [Readable α] (handle : AgentHandle) (selector : AgentAttribute) :
    Except Unavailable α :=
  (platform.agent handle selector).read selector.label

def regionAs (α : Type) [Readable α] (handle : RegionHandle) (selector : RegionAttribute) :
    Except Unavailable α :=
  (platform.region handle selector).read selector.label

def cacheAs (α : Type) [Readable α] (handle : CacheHandle) (selector : CacheAttribute) :
    Except Unavailable α :=
  (platform.cache handle selector).read selector.label

end Queries

end ComputeTopology
