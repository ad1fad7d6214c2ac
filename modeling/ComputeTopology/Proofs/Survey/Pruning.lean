import ComputeTopology.Proofs.Survey.Outcome

namespace ComputeTopology

open Attribute

namespace Queries

variable (platform : Queries)

/-- Whether an agent can be classified. -/
def hasDevice (handle : AgentHandle) : Bool :=
  (platform.agentAs DeviceClass handle .device).isOk

/-- Whether a region can be classified. -/
def hasSegment (handle : RegionHandle) : Bool :=
  (platform.regionAs Segment handle .segment).isOk

/-- The platform that answers alike, but lists only what can be classified. -/
def pruned : Queries :=
  { platform with
    agents := platform.agents.map (List.filter platform.hasDevice)
    regions := fun handle => (platform.regions handle).map (List.filter platform.hasSegment) }

end Queries

namespace Survey

variable {platform : Queries}

theorem regionFaults_filter (handles : List RegionHandle) :
    (handles.filter platform.hasSegment).filterMap (regionFault platform) = [] := by
  rw [List.filterMap_eq_nil_iff]
  intro handle kept
  have classified := (List.mem_filter.mp kept).2
  unfold Queries.hasSegment at classified
  unfold regionFault
  cases asked : platform.regionAs Segment handle .segment with
  | ok segment => rfl
  | error cause => simp [asked, Except.isOk, Except.toBool] at classified

theorem regionsFound_filter (handles : List RegionHandle) :
    (handles.filter platform.hasSegment).filterMap (regionFound platform) =
      handles.filterMap (regionFound platform) := by
  rw [List.filterMap_filter]
  congr 1
  funext handle
  unfold Queries.hasSegment regionFound
  cases platform.regionAs Segment handle .segment <;> rfl

theorem regionFaults_classify {handles : List RegionHandle} {failure : Failure}
    (met : failure ∈ handles.filterMap (regionFault platform)) :
    failure.isClassification = true := by
  obtain ⟨handle, _, fault⟩ := List.mem_filterMap.mp met
  obtain ⟨cause, _, rfl⟩ := regionFault_eq_some fault
  rfl

theorem objectFaults_pruned (handle : AgentHandle) :
    objectFaults platform.pruned handle =
      (objectFaults platform handle).filter (fun failure => !failure.isClassification) := by
  have same : regionFault platform.pruned = regionFault platform := rfl
  rw [objectFaults, same]
  simp only [objectFaults, Queries.pruned]
  cases platform.regions handle with
  | error cause => rfl
  | ok regions =>
      have skipped : (regions.filterMap (regionFault platform)).filter
          (fun failure => !failure.isClassification) = [] := by
        rw [List.filter_eq_nil_iff]
        intro failure met
        simp [regionFaults_classify met]
      simp only [Except.map, regionFaults_filter, List.filter_append, skipped]
      cases platform.caches handle <;> rfl

theorem agentOf_pruned (handle : AgentHandle) (deviceClass : DeviceClass) :
    agentOf platform.pruned handle deviceClass = agentOf platform handle deviceClass := by
  have regionsKept :
      (listed (platform.pruned.regions handle)).filterMap (regionFound platform.pruned) =
        (listed (platform.regions handle)).filterMap (regionFound platform) := by
    have same : regionFound platform.pruned = regionFound platform := rfl
    rw [same]
    simp only [Queries.pruned]
    cases platform.regions handle with
    | error cause => rfl
    | ok regions => exact regionsFound_filter regions
  simp only [agentOf, regionsKept]
  rfl

theorem agentFaults_pruned {handle : AgentHandle} (classified : platform.hasDevice handle = true) :
    agentFaults platform.pruned handle =
      (agentFaults platform handle).filter (fun failure => !failure.isClassification) := by
  have same : platform.pruned.agentAs DeviceClass = platform.agentAs DeviceClass := rfl
  unfold Queries.hasDevice at classified
  unfold agentFaults
  rw [same]
  cases asked : platform.agentAs DeviceClass handle .device with
  | error cause => simp [asked, Except.isOk, Except.toBool] at classified
  | ok deviceClass => exact objectFaults_pruned handle

theorem agentFaults_of_no_device {handle : AgentHandle} (absent : platform.hasDevice handle ≠ true) :
    (agentFaults platform handle).filter (fun failure => !failure.isClassification) = [] := by
  unfold Queries.hasDevice at absent
  unfold agentFaults
  cases asked : platform.agentAs DeviceClass handle .device with
  | error cause => rfl
  | ok deviceClass => simp [asked, Except.isOk, Except.toBool] at absent

theorem faults_pruned :
    faults platform.pruned =
      (faults platform).filter (fun failure => !failure.isClassification) := by
  have kept (handles : List AgentHandle) :
      (handles.filter platform.hasDevice).flatMap (agentFaults platform.pruned) =
        (handles.flatMap (agentFaults platform)).filter (fun failure => !failure.isClassification) := by
    induction handles with
    | nil => rfl
    | cons handle rest ih =>
        rw [List.flatMap_cons, List.filter_append, ← ih, List.filter_cons]
        by_cases classified : platform.hasDevice handle = true
        · rw [if_pos classified, List.flatMap_cons, agentFaults_pruned classified]
        · rw [if_neg classified, agentFaults_of_no_device classified, List.nil_append]
  simp only [faults, Queries.pruned]
  cases platform.agents with
  | error cause => rfl
  | ok handles => exact kept handles

theorem found_pruned : found platform.pruned = found platform := by
  have kept (handles : List AgentHandle) :
      (handles.filter platform.hasDevice).filterMap (agentFound platform.pruned) =
        handles.filterMap (agentFound platform) := by
    rw [List.filterMap_filter]
    congr 1
    funext handle
    have same : platform.pruned.agentAs DeviceClass = platform.agentAs DeviceClass := rfl
    unfold Queries.hasDevice agentFound
    rw [same]
    cases platform.agentAs DeviceClass handle .device with
    | error cause => rfl
    | ok deviceClass => exact congrArg some (agentOf_pruned handle deviceClass)
  simp only [found, Queries.pruned]
  cases platform.agents with
  | error cause => rfl
  | ok handles => exact congrArg Inventory.mk (kept handles)

theorem settle_skipObject {α : Type} (faults : List Failure) (result : α) :
    Policy.skipObject.settle faults result =
      Policy.failFast.settle (faults.filter (fun failure => !failure.isClassification)) result := by
  have skipped : (fun failure => !Policy.skipObject.skips failure) =
      (fun failure : Failure => !failure.isClassification) := rfl
  have strict : (fun failure => !Policy.failFast.skips failure) = (fun _ : Failure => true) := rfl
  unfold Policy.settle
  rw [skipped, strict, List.find?_filter]
  simp only [and_true, Bool.decide_eq_true]

theorem objectFaults_skipped_iff {handle : AgentHandle} :
    (∀ failure ∈ objectFaults platform handle, failure.isClassification = true) ↔
      (∃ regions, platform.regions handle = .ok regions) ∧
        ∃ caches, platform.caches handle = .ok caches := by
  unfold objectFaults
  cases platform.regions handle with
  | error cause => simp [Failure.isClassification]
  | ok regions =>
      have skipped : ∀ failure ∈ regions.filterMap (regionFault platform),
          failure.isClassification = true := fun _ => regionFaults_classify
      cases platform.caches handle with
      | error cause => simp [or_imp, forall_and, Failure.isClassification]
      | ok caches => simpa using skipped

/-- All that is met at an agent is skipped unless the agent is kept and one of its
    lists cannot be had. -/
theorem agentFaults_skipped_iff {handle : AgentHandle} :
    (∀ failure ∈ agentFaults platform handle, failure.isClassification = true) ↔
      (platform.hasDevice handle = true →
        (∃ regions, platform.regions handle = .ok regions) ∧
          ∃ caches, platform.caches handle = .ok caches) := by
  unfold Queries.hasDevice agentFaults
  cases platform.agentAs DeviceClass handle .device with
  | error cause => simp [Failure.isClassification, Except.isOk, Except.toBool]
  | ok deviceClass => simpa [Except.isOk, Except.toBool] using objectFaults_skipped_iff

theorem faults_skipped_iff :
    (∀ failure ∈ faults platform, failure.isClassification = true) ↔
      ∃ handles, platform.agents = .ok handles ∧
        ∀ handle ∈ handles, platform.hasDevice handle = true →
          (∃ regions, platform.regions handle = .ok regions) ∧
            ∃ caches, platform.caches handle = .ok caches := by
  unfold faults
  cases platform.agents with
  | error cause => simp [Failure.isClassification]
  | ok handles =>
      constructor
      · intro skipped
        refine ⟨handles, rfl, fun handle member => agentFaults_skipped_iff.mp ?_⟩
        exact fun failure met => skipped failure (List.mem_flatMap.mpr ⟨handle, member, met⟩)
      · rintro ⟨_, ⟨⟩, complete⟩ failure met
        obtain ⟨handle, member, met⟩ := List.mem_flatMap.mp met
        exact agentFaults_skipped_iff.mpr (complete handle member) failure met

/-- A survey that skips yields what a strict survey of the pruned platform yields,
    and fails as that one fails. So it never fails for want of a class, and
    never hides that something could not be listed for an agent it keeps. -/
theorem inventory_skipObject (platform : Queries) :
    inventory platform .skipObject = inventory platform.pruned .failFast ∧
      (∀ failure, inventory platform .skipObject = .error failure →
        ∃ call cause, failure = .traversal call cause) ∧
      ((∃ inventory, Survey.inventory platform .skipObject = .ok inventory) ↔
        ∃ handles, platform.agents = .ok handles ∧
          ∀ handle ∈ handles, platform.hasDevice handle = true →
            (∃ regions, platform.regions handle = .ok regions) ∧
              ∃ caches, platform.caches handle = .ok caches) := by
  refine ⟨?_, ?_, ?_⟩
  · rw [inventory_eq, inventory_eq, faults_pruned, found_pruned, settle_skipObject]
  · intro failure failed
    rw [inventory_eq] at failed
    have kept := Policy.not_skips_of_settle failed
    cases isFault_of_faults (Policy.mem_of_settle failed) with
    | classification object cause => contradiction
    | traversal call cause => exact ⟨call, cause, rfl⟩
  · rw [inventory_eq, ← faults_skipped_iff]
    simp only [Policy.settle_eq_ok_iff, exists_eq_left']
    rfl

end Survey

end ComputeTopology
