import Mathlib.Data.List.Basic
import ComputeTopology.Platform.Table
import ComputeTopology.Proofs.Survey.Outcome

namespace ComputeTopology

/-- The regions of an agent that belong to the global segment. -/
def Agent.inGlobalSegment (agent : Agent) : List MemoryRegion :=
  agent.regions.filter (·.isGlobal)

namespace Survey

theorem numberFrom_segments (next : Nat) (regions : List MemoryRegion) :
    (numberFrom next regions).map (·.segment) = regions.map (·.segment) := by
  induction regions generalizing next with
  | nil => rfl
  | cons region rest ih =>
      by_cases isGlobal : region.isGlobal
      · simp only [numberFrom, if_pos isGlobal, List.map_cons, ih]
      · simp only [numberFrom, if_neg isGlobal, List.map_cons, ih]

theorem numberFrom_isSome {regions : List MemoryRegion}
    (unnumbered : ∀ region ∈ regions, region.globalIndex = none) (next : Nat) :
    ∀ region ∈ numberFrom next regions, region.globalIndex.isSome = region.isGlobal := by
  induction regions generalizing next with
  | nil => exact List.forall_mem_nil _
  | cons region rest ih =>
      obtain ⟨first, others⟩ := List.forall_mem_cons.mp unnumbered
      by_cases isGlobal : region.isGlobal
      · simp only [numberFrom, if_pos isGlobal]
        exact List.forall_mem_cons.mpr ⟨isGlobal.symm, ih others (next + 1)⟩
      · simp only [numberFrom, if_neg isGlobal]
        refine List.forall_mem_cons.mpr ⟨?_, ih others next⟩
        rw [first, Option.isSome_none, eq_false_of_ne_true isGlobal]

/-- A global region takes the next number, and any other region none. -/
theorem numberFrom_globalIndex (next : Nat) (regions : List MemoryRegion) :
    ((numberFrom next regions).filter (·.isGlobal)).map (·.globalIndex) =
      (List.range' next (regions.countP (·.isGlobal))).map (fun index => some (.ofNat index)) := by
  induction regions generalizing next with
  | nil => rfl
  | cons region rest ih =>
      by_cases isGlobal : region.isGlobal
      · have kept : ({ region with globalIndex := some (.ofNat next) } : MemoryRegion).isGlobal :=
          isGlobal
        simp only [numberFrom, if_pos isGlobal, List.filter_cons_of_pos kept, List.map_cons, ih,
          List.countP_cons_of_pos isGlobal, List.range'_succ]
      · simp only [numberFrom, if_neg isGlobal, List.filter_cons_of_neg isGlobal, ih,
          List.countP_cons_of_neg isGlobal]

/-- A region at the end that is not global stays as it is. -/
theorem numberFrom_concat {last : MemoryRegion} (other : last.isGlobal = false) (next : Nat)
    (regions : List MemoryRegion) :
    numberFrom next (regions ++ [last]) = numberFrom next regions ++ [last] := by
  induction regions generalizing next with
  | nil => exact if_neg (by simp [other])
  | cons region rest ih =>
      rw [List.cons_append, numberFrom, numberFrom]
      split <;> rw [ih, List.cons_append]

variable {platform : Queries} {policy : Policy}

theorem regionFound_eq_some {handle : RegionHandle} {region : MemoryRegion}
    (found : regionFound platform handle = some region) :
    platform.regionAs Segment handle .segment = .ok region.segment ∧ region.globalIndex = none := by
  unfold regionFound at found
  cases asked : platform.regionAs Segment handle .segment with
  | error cause => simp [asked, Except.toOption] at found
  | ok segment =>
      simp only [asked, Except.toOption, Option.map_some, Option.some.injEq] at found
      cases found
      exact ⟨rfl, rfl⟩

theorem regionsFound_unnumbered (handles : List RegionHandle) :
    ∀ region ∈ handles.filterMap (regionFound platform), region.globalIndex = none := by
  intro region member
  obtain ⟨handle, _, found⟩ := List.mem_filterMap.mp member
  exact (regionFound_eq_some found).2

theorem regionsFound_segments (handles : List RegionHandle) :
    (handles.filterMap (regionFound platform)).map (·.segment) =
      handles.filterMap (fun handle => (platform.regionAs Segment handle .segment).toOption) := by
  rw [List.map_filterMap]
  congr 1
  funext handle
  unfold regionFound
  cases platform.regionAs Segment handle .segment <;> rfl

theorem agentOf_isSome (handle : AgentHandle) (deviceClass : DeviceClass) :
    ∀ region ∈ (agentOf platform handle deviceClass).regions,
      region.globalIndex.isSome = region.isGlobal :=
  numberFrom_isSome (regionsFound_unnumbered _) 0

theorem agentOf_globalIndex (handle : AgentHandle) (deviceClass : DeviceClass) :
    (agentOf platform handle deviceClass).inGlobalSegment.map (·.globalIndex) =
      (List.range (agentOf platform handle deviceClass).inGlobalSegment.length).map
        (fun index => some (.ofNat index)) := by
  have numbered := numberFrom_globalIndex 0
    ((listed (platform.regions handle)).filterMap (regionFound platform))
  have count := congrArg List.length numbered
  simp only [List.length_map, List.length_range'] at count
  rw [← count, ← List.range_eq_range'] at numbered
  exact numbered

theorem agentOf_segments (handle : AgentHandle) (deviceClass : DeviceClass) :
    (agentOf platform handle deviceClass).regions.map (·.segment) =
      (listed (platform.regions handle)).filterMap
        (fun region => (platform.regionAs Segment region .segment).toOption) := by
  rw [← regionsFound_segments]
  exact numberFrom_segments 0 _

/-- Every agent of an inventory was made of one of the platform's handles. -/
theorem mem_inventory {inventory : Inventory} {agent : Agent}
    (surveyed : Survey.inventory platform policy = .ok inventory) (member : agent ∈ inventory.agents) :
    ∃ handle ∈ listed platform.agents, ∃ deviceClass,
      agent = agentOf platform handle deviceClass := by
  rw [← found_of_inventory surveyed] at member
  obtain ⟨handle, isListed, found⟩ := List.mem_filterMap.mp member
  obtain ⟨deviceClass, _, described⟩ := Option.map_eq_some_iff.mp found
  exact ⟨handle, isListed, deviceClass, described.symm⟩

/-- In every agent of an inventory exactly the global regions have a number, and
    their numbers count up from zero. Which regions there are, and so which
    numbers, follows from the segments that the platform reports for the
    regions of that agent. -/
theorem global_regions_count_up {inventory : Inventory}
    (surveyed : Survey.inventory platform policy = .ok inventory)
    (few : ∀ agent ∈ inventory.agents, agent.inGlobalSegment.length < UInt32.size) :
    ∀ agent ∈ inventory.agents,
      (∀ region ∈ agent.regions, region.globalIndex.isSome = true ↔ region.segment = .global) ∧
        agent.inGlobalSegment.map (fun region => region.globalIndex.map UInt32.toNat) =
          (List.range agent.inGlobalSegment.length).map some ∧
        agent.globalRegions = agent.inGlobalSegment ∧
        ∃ handle ∈ listed platform.agents,
          agent.regions.map (·.segment) =
            (listed (platform.regions handle)).filterMap
              (fun region => (platform.regionAs Segment region .segment).toOption) := by
  intro agent member
  have small := few agent member
  obtain ⟨handle, isListed, deviceClass, rfl⟩ := mem_inventory surveyed member
  have numbered : ∀ region ∈ (agentOf platform handle deviceClass).regions,
      region.globalIndex.isSome = region.isGlobal :=
    agentOf_isSome handle deviceClass
  refine ⟨?_, ?_, ?_, handle, isListed, agentOf_segments handle deviceClass⟩
  · intro region regionMember
    rw [numbered region regionMember, MemoryRegion.isGlobal, beq_iff_eq]
  · calc (agentOf platform handle deviceClass).inGlobalSegment.map
          (fun region => region.globalIndex.map UInt32.toNat)
        = ((agentOf platform handle deviceClass).inGlobalSegment.map (·.globalIndex)).map
            (Option.map UInt32.toNat) := by rw [List.map_map]; rfl
      _ = _ := by
        rw [agentOf_globalIndex, List.map_map]
        refine List.map_congr_left (fun index below => ?_)
        have fits : index < UInt32.size := Nat.lt_trans (List.mem_range.mp below) small
        exact congrArg some (UInt32.toNat_ofNat_of_lt fits)
  · exact List.filter_congr numbered

end Survey

/-- An agent with a region that has no segment between its two global ones, and
    another with one global region of its own. -/
def PlatformTable.interleaved : PlatformTable where
  system := []
  agents := .ok [⟨7⟩, ⟨9⟩]
  agentTables := [
    (⟨7⟩, { answers := [(.device, .ok (.device .gpu))]
            regions := .ok [⟨1⟩, ⟨2⟩, ⟨3⟩, ⟨4⟩]
            caches := .ok [] }),
    (⟨9⟩, { answers := [(.device, .ok (.device .cpu))]
            regions := .ok [⟨5⟩]
            caches := .ok [] })]
  regionTables := [
    (⟨1⟩, [(.segment, .ok (.segment .global))]),
    (⟨2⟩, [(.size, .ok (.u64 4096))]),
    (⟨3⟩, [(.segment, .ok (.segment .group))]),
    (⟨4⟩, [(.segment, .ok (.segment .global)), (.size, .ok (.text "large"))]),
    (⟨5⟩, [(.segment, .ok (.segment .global))])]
  cacheTables := []
  shutDown := .ok ()

namespace Survey

theorem interleaved_regions_count_up :
    ∃ first second,
      Survey.inventory PlatformTable.interleaved.queries .skipObject = .ok ⟨[first, second]⟩ ∧
        first.inGlobalSegment.map (fun region => region.globalIndex.map UInt32.toNat) =
          [some 0, some 1] ∧
        second.inGlobalSegment.map (fun region => region.globalIndex.map UInt32.toNat) =
          [some 0] := by
  let first : Agent := {
    nodeId := none, name := "", kind := .gpu ⟨none, none, none, none, none, none⟩
    regions := [⟨.global, none, none, some 0⟩, ⟨.group, none, none, none⟩,
      ⟨.global, none, none, some 1⟩]
    caches := [] }
  let second : Agent := {
    nodeId := none, name := "", kind := .cpu none
    regions := [⟨.global, none, none, some 0⟩]
    caches := [] }
  have surveyed : Survey.inventory PlatformTable.interleaved.queries .skipObject =
      .ok ⟨[first, second]⟩ := by
    decide +kernel
  have counted := global_regions_count_up surveyed (by decide)
  obtain ⟨_, firstNumbers, _⟩ := counted first (by decide)
  obtain ⟨_, secondNumbers, _⟩ := counted second (by decide)
  exact ⟨first, second, surveyed, firstNumbers, secondNumbers⟩

end Survey

end ComputeTopology
