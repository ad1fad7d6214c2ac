import Mathlib.Data.List.Basic
import ComputeTopology.Capture.Replay

namespace ComputeTopology

open Attribute

namespace Attribute.Answer

variable {α : Type} [Readable α] {label : String}

theorem read_ofFact (wrap : α → Value) (readable : ∀ value, Readable.ofValue? (wrap value) = some value)
    (asked : String) (fact : Option α) :
    (ofFact label wrap fact).read asked =
      match fact with
      | some value => .ok value
      | none => .error ⟨label, .notReported⟩ := by
  cases fact with
  | none => rfl
  | some value => simp only [ofFact, read, readable]

theorem toOption_read_ofFact (wrap : α → Value)
    (readable : ∀ value, Readable.ofValue? (wrap value) = some value)
    (asked : String) (fact : Option α) : ((ofFact label wrap fact).read asked).toOption = fact := by
  rw [read_ofFact wrap readable]
  cases fact <;> rfl

end Attribute.Answer

namespace Capture.Replay

variable {topology : Topology} {agent : Agent} {place index : Nat}

theorem agentRecord_start (found : topology.agents[place]? = some agent) :
    (start topology).agentRecord place = .ok agent := by
  simp only [agentRecord, start, if_true, found]

theorem objectRecord_start {kind : ObjectKind} {α : Type} {objects : Agent → List α} {object : α}
    (few : place < UInt32.size) (found : topology.agents[place]? = some agent)
    (listed : (objects agent)[index % UInt32.size]? = some object) :
    (start topology).objectRecord objects (.ofPlaces place index : Handle kind) = .ok object := by
  simp only [objectRecord, Handle.agentPlace_ofPlaces few, agentRecord_start found,
    Handle.objectPlace_ofPlaces few, listed]

theorem agent_start (few : place < UInt32.size) (found : topology.agents[place]? = some agent)
    (selector : AgentAttribute) :
    (start topology).queries.agent (.ofPlace place) selector = agentFact agent selector := by
  simp only [queries, Handle.ofPlace_bits few, agentRecord_start found]

theorem region_start {region : Region} (few : place < UInt32.size)
    (found : topology.agents[place]? = some agent)
    (listed : agent.regions[index % UInt32.size]? = some region) (selector : RegionAttribute) :
    (start topology).queries.region (.ofPlaces place index) selector = regionFact region selector := by
  simp only [queries, objectRecord_start few found listed]

theorem cache_start {cache : Cache} (few : place < UInt32.size)
    (found : topology.agents[place]? = some agent)
    (listed : agent.caches[index % UInt32.size]? = some cache) (selector : CacheAttribute) :
    (start topology).queries.cache (.ofPlaces place index) selector = cacheFact cache selector := by
  simp only [queries, objectRecord_start few found listed]

/-- Counting through a list is counting its entries. -/
theorem map_range_length {α β : Type} (items : List α) (issue : Nat → β) :
    (List.range items.length).map issue = items.zipIdx.map (fun entry => issue entry.2) := by
  rw [List.range_eq_range', ← List.zipIdx_map_snd 0 items, List.map_map]
  rfl

/-- Visiting handles issued for the places of a list is visiting its items, if
    each handle yields the description of its item. -/
theorem filterMap_places {α β γ : Type} {items : List α} {issue : Nat → γ} {visit : γ → Option β}
    {description : α → Option β}
    (agree : ∀ item index, index < items.length → items[index]? = some item →
      visit (issue index) = description item) :
    (items.zipIdx.map (fun entry => issue entry.2)).filterMap visit = items.filterMap description := by
  have shown : items.filterMap description =
      items.zipIdx.filterMap (fun entry => description entry.1) := by
    conv_lhs => rw [← List.zipIdx_map_fst 0 items, List.filterMap_map]
    rfl
  rw [shown, List.filterMap_map]
  apply List.filterMap_congr
  rintro ⟨item, index⟩ member
  have listed := List.mem_zipIdx_iff_getElem?.mp member
  exact agree item index (List.getElem?_eq_some_iff.mp listed).1 listed

/-- What the handles issued for the places of some objects lead to. -/
def reached {α : Type} (items : List α) : List α :=
  (List.range items.length).filterMap (fun place => items[place % UInt32.size]?)

theorem reached_of_small {α : Type} {items : List α} (small : items.length < UInt32.size) :
    reached items = items := by
  have own : ∀ item index, index < items.length → items[index]? = some item →
      items[index % UInt32.size]? = some item := by
    intro item index below listed
    rw [Nat.mod_eq_of_lt (Nat.lt_trans below small), listed]
  have visited := @filterMap_places α α Nat items id (items[· % UInt32.size]?) some own
  rw [← map_range_length items id, List.map_id, List.filterMap_some] at visited
  exact visited

theorem filterMap_reached {α β γ : Type} {items : List α} {issue : Nat → γ} {visit : γ → Option β}
    {description : α → Option β}
    (agree : ∀ item index, items[index % UInt32.size]? = some item →
      visit (issue index) = description item) :
    (items.zipIdx.map (fun entry => issue entry.2)).filterMap visit =
      (reached items).filterMap description := by
  rw [← map_range_length, List.filterMap_map, reached, List.filterMap_filterMap]
  apply List.filterMap_congr
  intro index member
  have within : index % UInt32.size < items.length :=
    Nat.lt_of_le_of_lt (Nat.mod_le _ _) (List.mem_range.mp member)
  have listed := List.getElem?_eq_getElem within
  rw [listed, Option.bind_some]
  exact agree _ index listed

theorem agents_start (topology : Topology) :
    (start topology).queries.agents =
      .ok (topology.agents.zipIdx.map (fun entry => .ofPlace entry.2)) := by
  simp only [queries, agentHandles, start, if_true, map_range_length]

theorem objectHandles_start {kind : ObjectKind} {α : Type} (objects : Agent → List α)
    (few : place < UInt32.size) (found : topology.agents[place]? = some agent) :
    (start topology).objectHandles objects (.ofPlace place) =
      .ok ((objects agent).zipIdx.map (fun entry => (.ofPlaces place entry.2 : Handle kind))) := by
  simp only [objectHandles, Handle.ofPlace_bits few, ← map_range_length]
  simp only [start, if_true, found]

end Capture.Replay

end ComputeTopology
