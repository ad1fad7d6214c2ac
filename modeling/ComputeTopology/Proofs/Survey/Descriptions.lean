import Mathlib.Data.List.Forall2
import ComputeTopology.Proofs.Survey.Numbering

namespace ComputeTopology

/-- The handles issued for the items of a list, visited in order, yield what is kept of them
    in order. -/
theorem forall₂_filterMap {α β γ : Type} {related : α → β → Prop} {keep : α → Bool}
    {visit : γ → Option β} {visits : List (α × γ)}
    (agree : ∀ item ∈ visits,
      if keep item.1 then ∃ yielded, visit item.2 = some yielded ∧ related item.1 yielded
      else visit item.2 = none) :
    List.Forall₂ related ((visits.map (·.1)).filter keep) ((visits.map (·.2)).filterMap visit) := by
  induction visits with
  | nil => exact .nil
  | cons first rest ih =>
      obtain ⟨visited, others⟩ := List.forall_mem_cons.mp agree
      rw [List.map_cons, List.map_cons]
      by_cases kept : keep first.1
      · rw [if_pos kept] at visited
        obtain ⟨yielded, found, holds⟩ := visited
        rw [List.filter_cons_of_pos kept, List.filterMap_cons_some found]
        exact .cons holds (ih others)
      · rw [if_neg kept] at visited
        rw [List.filter_cons_of_neg kept, List.filterMap_cons_none visited]
        exact ih others

section Related

variable {α β γ : Type} {related : α → β → Prop} {items : List α} {others : List β}

theorem forall₂_singleton_iff {item : α} :
    List.Forall₂ related [item] others ↔ ∃ other, others = [other] ∧ related item other := by
  simp only [List.forall₂_cons_left_iff, List.forall₂_nil_left_iff]
  constructor
  · rintro ⟨other, _, holds, rfl, rfl⟩
    exact ⟨other, rfl, holds⟩
  · rintro ⟨other, rfl, holds⟩
    exact ⟨other, [], holds, rfl, rfl⟩

theorem exists_of_forall₂ (pairs : List.Forall₂ related items others) :
    ∀ item ∈ items, ∃ other ∈ others, related item other := by
  induction pairs with
  | nil => exact List.forall_mem_nil _
  | cons holds _ ih =>
      refine List.forall_mem_cons.mpr ⟨⟨_, List.mem_cons_self, holds⟩, fun item member => ?_⟩
      obtain ⟨other, otherMember, related⟩ := ih item member
      exact ⟨other, List.mem_cons_of_mem _ otherMember, related⟩

theorem forall₂_trans {further : β → γ → Prop} {last : List γ}
    (pairs : List.Forall₂ related items others) (next : List.Forall₂ further others last) :
    List.Forall₂ (fun item final => ∃ other, related item other ∧ further other final) items last := by
  induction pairs generalizing last with
  | nil =>
      cases next
      exact .nil
  | cons holds _ ih =>
      cases next with
      | cons reaches rest => exact .cons ⟨_, holds, reaches⟩ (ih rest)

end Related

namespace Survey

variable (platform : Queries)

/-- The regions of an agent that have a segment. -/
def classifiedRegions (handle : AgentHandle) : List RegionHandle :=
  (listed (platform.regions handle)).filter
    (fun region => (platform.regionAs Segment region .segment).toOption.isSome)

/-- The agents that have a class. -/
def classifiedAgents : List AgentHandle :=
  (listed platform.agents).filter
    (fun handle => (platform.agentAs DeviceClass handle .device).toOption.isSome)

structure DescribesRegion (handle : RegionHandle) (region : MemoryRegion) : Prop where
  segment : platform.regionAs Segment handle .segment = .ok region.segment
  sizeBytes : region.sizeBytes = (platform.regionAs UInt64 handle .size).toOption
  hostAccessible : region.hostAccessible = (platform.regionAs Bool handle .hostAccessible).toOption
  globalIndex : region.globalIndex.isSome = region.isGlobal

structure DescribesAgent (handle : AgentHandle) (agent : Agent) : Prop where
  device : platform.agentAs DeviceClass handle .device = .ok agent.deviceClass
  nodeId : agent.nodeId = (platform.agentAs UInt32 handle .nodeId).toOption
  name : agent.name = Survey.name platform handle
  kind : agent.kind = Survey.kind platform handle agent.deviceClass
  regions : List.Forall₂ (DescribesRegion platform) (classifiedRegions platform handle) agent.regions
  caches : agent.caches = (listed (platform.caches handle)).map (cache platform)

variable {platform : Queries} {policy : Policy}

theorem regions_described (handles : List RegionHandle) (next : Nat) :
    List.Forall₂ (DescribesRegion platform)
      (handles.filter (fun region => (platform.regionAs Segment region .segment).toOption.isSome))
      (numberFrom next (handles.filterMap (regionFound platform))) := by
  induction handles generalizing next with
  | nil => exact .nil
  | cons handle rest ih =>
      cases asked : platform.regionAs Segment handle .segment with
      | error cause =>
          rw [List.filter_cons_of_neg (by simp [asked, Except.toOption]),
            List.filterMap_cons_none (region_of_error ⟨0⟩ asked).2.2]
          exact ih next
      | ok segment =>
          have found : regionFound platform handle = some
              ⟨segment, (platform.regionAs UInt64 handle .size).toOption,
                (platform.regionAs Bool handle .hostAccessible).toOption, none⟩ := by
            simp only [regionFound, asked]
            rfl
          rw [List.filter_cons_of_pos (by simp [asked, Except.toOption]),
            List.filterMap_cons_some found]
          by_cases isGlobal : segment = .global
          · simp only [numberFrom, MemoryRegion.isGlobal, isGlobal, beq_self_eq_true, if_true]
            exact .cons ⟨isGlobal ▸ asked, rfl, rfl, rfl⟩ (ih (next + 1))
          · have other : (segment == .global) = false := beq_false_of_ne isGlobal
            simp only [numberFrom, MemoryRegion.isGlobal, other, Bool.false_eq_true, if_false]
            exact .cons ⟨asked, rfl, rfl, other.symm⟩ (ih next)

theorem agent_described {handle : AgentHandle} {deviceClass : DeviceClass}
    (asked : platform.agentAs DeviceClass handle .device = .ok deviceClass) :
    DescribesAgent platform handle (agentOf platform handle deviceClass) where
  device := asked.trans (congrArg Except.ok (kind_deviceClass platform handle deviceClass).symm)
  nodeId := rfl
  name := rfl
  kind := congrArg (kind platform handle) (kind_deviceClass platform handle deviceClass).symm
  regions := regions_described _ 0
  caches := rfl

theorem found_described :
    List.Forall₂ (DescribesAgent platform) (classifiedAgents platform) (found platform).agents := by
  have visited := @forall₂_filterMap _ _ _ (DescribesAgent platform)
    (fun handle => (platform.agentAs DeviceClass handle .device).toOption.isSome)
    (agentFound platform) ((listed platform.agents).map fun handle => (handle, handle)) ?_
  · simp only [List.map_map, Function.comp_def, List.map_id_fun', id] at visited
    exact visited
  · refine List.forall_mem_map.mpr fun handle _ => ?_
    cases asked : platform.agentAs DeviceClass handle .device with
    | error cause => simp [agentFound, asked, Except.toOption]
    | ok deviceClass =>
        have found : agentFound platform handle = some (agentOf platform handle deviceClass) := by
          simp only [agentFound, asked]
          rfl
        exact ⟨_, found, agent_described asked⟩

/-- An inventory describes the agents that have a class, one after another. -/
theorem described_of_inventory {inventory : Inventory}
    (surveyed : Survey.inventory platform policy = .ok inventory) :
    List.Forall₂ (DescribesAgent platform) (classifiedAgents platform) inventory.agents := by
  rw [← found_of_inventory surveyed]
  exact found_described

theorem names_of_inventory {inventory : Inventory}
    (surveyed : Survey.inventory platform policy = .ok inventory) :
    inventory.agents.map (·.name) = (classifiedAgents platform).map (name platform) := by
  have named : List.Forall₂ Eq ((classifiedAgents platform).map (name platform))
      (inventory.agents.map (·.name)) :=
    List.forall₂_map_left_iff.mpr <| List.forall₂_map_right_iff.mpr <|
      (described_of_inventory surveyed).imp fun _ _ describes => describes.name.symm
  rw [List.forall₂_eq_eq_eq] at named
  exact named.symm

end Survey

end ComputeTopology
