import Mathlib.Data.List.Basic
import ComputeTopology.Platform.Table
import ComputeTopology.Proofs.Survey.Outcome

namespace ComputeTopology

open Attribute

/-- Two platforms that list the same objects, classify them alike and say the
    same about their version. -/
structure Queries.Alike (left right : Queries) : Prop where
  agents : left.agents = right.agents
  regions : ∀ handle, left.regions handle = right.regions handle
  caches : ∀ handle, left.caches handle = right.caches handle
  device : ∀ handle, left.agent handle .device = right.agent handle .device
  segment : ∀ handle, left.region handle .segment = right.region handle .segment
  versionMajor : left.system .versionMajor = right.system .versionMajor
  versionMinor : left.system .versionMinor = right.system .versionMinor

/-- The segment of a region and its place among the global ones. -/
def MemoryRegion.placement (region : MemoryRegion) : Segment × Option UInt32 :=
  (region.segment, region.globalIndex)

def Agent.placements (agent : Agent) : List (Segment × Option UInt32) :=
  agent.regions.map (·.placement)

/-- What is left of an agent without its figures. -/
def Agent.outline (agent : Agent) : DeviceClass × List (Segment × Option UInt32) × Nat :=
  (agent.deviceClass, agent.placements, agent.caches.length)

theorem Inventory.shape_eq (inventory : Inventory) :
    inventory.shape = (inventory.agents.map Agent.outline).map
      (fun (deviceClass, placements, caches) => (deviceClass, placements.length, caches)) := by
  simp [Inventory.shape, Agent.outline, Agent.placements]

theorem Inventory.placements_eq (inventory : Inventory) :
    inventory.agents.map Agent.placements = (inventory.agents.map Agent.outline).map (·.2.1) := by
  simp [Agent.outline]

namespace Survey

theorem numberFrom_placement {left right : List MemoryRegion}
    (same : left.map (·.placement) = right.map (·.placement)) (next : Nat) :
    (numberFrom next left).map (·.placement) = (numberFrom next right).map (·.placement) := by
  induction left generalizing right next with
  | nil =>
      have empty : right = [] := by simpa using same.symm
      rw [empty]
  | cons region rest ih =>
      cases right with
      | nil => simp at same
      | cons other others =>
          obtain ⟨placed, tails⟩ := List.cons.inj same
          -- Whether a region is numbered depends on its segment alone.
          have segments : region.segment = other.segment := congrArg Prod.fst placed
          have kinds : region.isGlobal = other.isGlobal := by
            simp only [MemoryRegion.isGlobal, segments]
          by_cases isGlobal : other.isGlobal
          · have numbered : ({ region with globalIndex := some (.ofNat next) } : MemoryRegion).placement =
                ({ other with globalIndex := some (.ofNat next) } : MemoryRegion).placement := by
              simp only [MemoryRegion.placement, segments]
            simp only [numberFrom, kinds, if_pos isGlobal, List.map_cons, ih tails, numbered]
          · simp only [numberFrom, kinds, if_neg isGlobal, List.map_cons, ih tails, placed]

variable {left right : Queries}

theorem regionAs_segment_of_alike (alike : left.Alike right) (handle : RegionHandle) :
    left.regionAs Segment handle .segment = right.regionAs Segment handle .segment := by
  simp only [Queries.regionAs, alike.segment]

theorem agentAs_device_of_alike (alike : left.Alike right) (handle : AgentHandle) :
    left.agentAs DeviceClass handle .device = right.agentAs DeviceClass handle .device := by
  simp only [Queries.agentAs, alike.device]

theorem faults_of_alike (alike : left.Alike right) : faults left = faults right :=
  faults_congr alike.agents alike.regions alike.caches (agentAs_device_of_alike alike)
    (regionAs_segment_of_alike alike)

theorem regionsFound_of_alike (alike : left.Alike right) (handles : List RegionHandle) :
    (handles.filterMap (regionFound left)).map (·.placement) =
      (handles.filterMap (regionFound right)).map (·.placement) := by
  rw [List.map_filterMap, List.map_filterMap]
  congr 1
  funext handle
  simp only [regionFound, regionAs_segment_of_alike alike, Option.map_map]
  rfl

theorem agentOf_outline_of_alike (alike : left.Alike right) (handle : AgentHandle)
    (deviceClass : DeviceClass) :
    (agentOf left handle deviceClass).outline = (agentOf right handle deviceClass).outline := by
  have placed : (agentOf left handle deviceClass).placements =
      (agentOf right handle deviceClass).placements := by
    simp only [Agent.placements, agentOf, alike.regions]
    exact numberFrom_placement (regionsFound_of_alike alike _) 0
  simp only [Agent.outline, placed]
  simp only [agentOf, Agent.deviceClass, kind_deviceClass, alike.caches, List.length_map]

theorem found_outline_of_alike (alike : left.Alike right) :
    (found left).agents.map Agent.outline = (found right).agents.map Agent.outline := by
  simp only [found, alike.agents]
  rw [List.map_filterMap, List.map_filterMap]
  congr 1
  funext handle
  simp only [agentFound, agentAs_device_of_alike alike, Option.map_map]
  congr 1
  funext deviceClass
  exact agentOf_outline_of_alike alike handle deviceClass

theorem versionPart_of_alike (alike : left.Alike right) :
    versionPart left .versionMajor = versionPart right .versionMajor ∧
      versionPart left .versionMinor = versionPart right .versionMinor := by
  simp only [versionPart, Queries.systemAs, alike.versionMajor, alike.versionMinor, and_self]

/-- Surveys of platforms that list and classify alike end alike, and what they find
    differs in figures only. The facts about their systems fail alike or have
    the same version. -/
theorem surveys_agree (alike : left.Alike right) (policy : Policy) :
    ((∃ failure, inventory left policy = .error failure ∧
          inventory right policy = .error failure) ∨
        ∃ first second, inventory left policy = .ok first ∧ inventory right policy = .ok second ∧
          first.shape = second.shape ∧
          first.agents.map Agent.placements = second.agents.map Agent.placements) ∧
      ((∃ failure, systemFacts left = .error failure ∧ systemFacts right = .error failure) ∨
        ∃ first second, systemFacts left = .ok first ∧ systemFacts right = .ok second ∧
          first.version = second.version) := by
  constructor
  · rw [inventory_eq, inventory_eq, faults_of_alike alike]
    have outlines := found_outline_of_alike alike
    unfold Policy.settle
    cases (faults right).find? (fun failure => !policy.skips failure) with
    | some failure => exact .inl ⟨failure, rfl, rfl⟩
    | none =>
        refine .inr ⟨found left, found right, rfl, rfl, ?_, ?_⟩
        · rw [Inventory.shape_eq, outlines, ← Inventory.shape_eq]
        · rw [Inventory.placements_eq, outlines, ← Inventory.placements_eq]
  · obtain ⟨majors, minors⟩ := versionPart_of_alike alike
    unfold systemFacts
    rw [majors, minors]
    cases versionPart right .versionMajor with
    | error failure => exact .inl ⟨failure, rfl, rfl⟩
    | ok major =>
        cases versionPart right .versionMinor with
        | error failure => exact .inl ⟨failure, rfl, rfl⟩
        | ok minor => exact .inr ⟨_, _, rfl, rfl, rfl⟩

end Survey

/-- The platform that lists and classifies alike and is silent about everything else. -/
def Queries.muted (platform : Queries) : Queries :=
  { platform with
    system := fun selector =>
      if selector = .versionMajor ∨ selector = .versionMinor then platform.system selector
      else .error ⟨selector.label, .notReported⟩
    agent := fun handle selector =>
      if selector = .device then platform.agent handle selector
      else .error ⟨selector.label, .notReported⟩
    region := fun handle selector =>
      if selector = .segment then platform.region handle selector
      else .error ⟨selector.label, .notReported⟩
    cache := fun _ selector => .error ⟨selector.label, .notReported⟩ }

theorem Queries.alike_muted (platform : Queries) : platform.Alike platform.muted where
  agents := rfl
  regions _ := rfl
  caches _ := rfl
  device _ := rfl
  segment _ := rfl
  versionMajor := rfl
  versionMinor := rfl

/-- A GPU with all of its figures, one of them of the wrong type. -/
def PlatformTable.outspoken : PlatformTable where
  system := [(.versionMajor, .ok (.u16 1)), (.versionMinor, .ok (.u8 2)), (.nodeCount, .ok (.u32 1))]
  agents := .ok [⟨3⟩]
  agentTables := [
    (⟨3⟩, { answers := [(.device, .ok (.device .gpu)), (.name, .ok (.text "gfx1030")),
              (.nodeId, .ok (.u64 5)), (.computeUnitCount, .ok (.u32 40)),
              (.simdsPerUnit, .ok (.u8 2)), (.chipId, .ok (.u32 29631))]
            regions := .ok [⟨1⟩, ⟨2⟩]
            caches := .ok [⟨4⟩] })]
  regionTables := [
    (⟨1⟩, [(.segment, .ok (.segment .group)), (.size, .ok (.u64 65536))]),
    (⟨2⟩, [(.segment, .ok (.segment .global)), (.hostAccessible, .ok (.bool true))])]
  cacheTables := [(⟨4⟩, [(.level, .ok (.u8 1)), (.size, .ok (.u32 16384))])]
  shutDown := .ok ()

namespace Survey

theorem outspoken_and_muted_agree :
    PlatformTable.outspoken.queries.Alike PlatformTable.outspoken.queries.muted ∧
      ∃ first second, inventory PlatformTable.outspoken.queries .failFast = .ok first ∧
        inventory PlatformTable.outspoken.queries.muted .failFast = .ok second ∧
        first ≠ second ∧ first.shape = second.shape ∧
        first.agents.map Agent.placements = second.agents.map Agent.placements := by
  have alike := Queries.alike_muted PlatformTable.outspoken.queries
  refine ⟨alike, ?_⟩
  have succeeds : (inventory PlatformTable.outspoken.queries .failFast).isOk = true := by
    decide +kernel
  have differ : inventory PlatformTable.outspoken.queries .failFast ≠
      inventory PlatformTable.outspoken.queries.muted .failFast := by
    decide +kernel
  rcases (surveys_agree alike .failFast).1 with ⟨failure, failed, _⟩ | ⟨first, second, left, right, same⟩
  · rw [failed] at succeeds
    contradiction
  · rw [left, right] at differ
    exact ⟨first, second, left, right, fun equal => differ (congrArg Except.ok equal), same⟩

end Survey

end ComputeTopology
