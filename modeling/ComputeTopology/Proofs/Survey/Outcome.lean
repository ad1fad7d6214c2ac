import ComputeTopology.Survey

namespace ComputeTopology.Survey

open Attribute

namespace Policy

variable {α : Type} {policy : Policy} {failure : Failure} {faults rest : List Failure}

/-- The end of a survey that meets these faults on the way to its result. -/
def settle (policy : Policy) (faults : List Failure) (result : α) : Except Failure α :=
  match faults.find? (fun failure => !policy.skips failure) with
  | some failure => .error failure
  | none => .ok result

@[simp] theorem settle_nil (result : α) : policy.settle [] result = .ok result := rfl

theorem settle_cons (result : α) :
    policy.settle (failure :: rest) result =
      if policy.skips failure then policy.settle rest result else .error failure := by
  unfold settle
  rw [List.find?_cons]
  cases policy.skips failure <;> rfl

theorem settle_append (result : α) :
    policy.settle (faults ++ rest) result =
      (policy.settle faults ()).bind (fun _ => policy.settle rest result) := by
  unfold settle
  rw [List.find?_append]
  cases faults.find? (fun failure => !policy.skips failure) <;> rfl

theorem settle_map {β : Type} (step : α → β) (result : α) :
    policy.settle faults (step result) = (policy.settle faults result).map step := by
  unfold settle
  cases faults.find? (fun failure => !policy.skips failure) <;> rfl

theorem settle_failFast (faults : List Failure) (result : α) :
    failFast.settle faults result =
      match faults.head? with
      | some failure => .error failure
      | none => .ok result := by
  cases faults <;> rfl

theorem settle_eq_ok_iff {result settled : α} :
    policy.settle faults result = .ok settled ↔
      result = settled ∧ ∀ failure ∈ faults, policy.skips failure = true := by
  unfold settle
  split
  · rename_i failure found
    have kept := List.find?_some found
    simp only [reduceCtorEq, false_iff, not_and]
    intro _ skipped
    simp [skipped failure (List.mem_of_find?_eq_some found)] at kept
  · rename_i absent
    simpa using fun _ => absent

theorem mem_of_settle {result : α} (ended : policy.settle faults result = .error failure) :
    failure ∈ faults := by
  unfold settle at ended
  split at ended
  · rename_i found
    cases ended
    exact List.mem_of_find?_eq_some found
  · contradiction

theorem not_skips_of_settle {result : α} (ended : policy.settle faults result = .error failure) :
    policy.skips failure = false := by
  unfold settle at ended
  split at ended
  · rename_i found
    cases ended
    simpa using List.find?_some found
  · contradiction

end Policy

variable (platform : Queries)

/-- Why a region cannot be classified, if it cannot. -/
def regionFault (handle : RegionHandle) : Option Failure :=
  match platform.regionAs Segment handle .segment with
  | .ok _ => none
  | .error cause => some (.classification handle.label cause)

/-- A region that can be classified, without its place among the global ones. -/
def regionFound (handle : RegionHandle) : Option MemoryRegion :=
  (platform.regionAs Segment handle .segment).toOption.map fun segment => {
    segment
    sizeBytes := (platform.regionAs UInt64 handle .size).toOption
    hostAccessible := (platform.regionAs Bool handle .hostAccessible).toOption
    globalIndex := none }

def numberFrom (next : Nat) : List MemoryRegion → List MemoryRegion
  | [] => []
  | region :: rest =>
      if region.isGlobal then
        { region with globalIndex := some (.ofNat next) } :: numberFrom (next + 1) rest
      else region :: numberFrom next rest

/-- What is listed, which is nothing if the list cannot be had. -/
def listed {α : Type} (answer : Except PlatformError (List α)) : List α :=
  answer.toOption.getD []

@[simp] theorem listed_ok {α : Type} (items : List α) : listed (.ok items) = items := rfl

def objectFaults (handle : AgentHandle) : List Failure :=
  match platform.regions handle with
  | .error cause => [.traversal "region enumeration" cause]
  | .ok regions =>
      regions.filterMap (regionFault platform) ++
        match platform.caches handle with
        | .error cause => [.traversal "cache enumeration" cause]
        | .ok _ => []

/-- The faults met at an agent. Nothing below an agent that cannot be classified
    is looked at. -/
def agentFaults (handle : AgentHandle) : List Failure :=
  match platform.agentAs DeviceClass handle .device with
  | .error cause => [.classification handle.label cause]
  | .ok _ => objectFaults platform handle

def agentOf (handle : AgentHandle) (deviceClass : DeviceClass) : Agent where
  nodeId := (platform.agentAs UInt32 handle .nodeId).toOption
  name := name platform handle
  kind := kind platform handle deviceClass
  regions := numberFrom 0 ((listed (platform.regions handle)).filterMap (regionFound platform))
  caches := (listed (platform.caches handle)).map (cache platform)

def agentFound (handle : AgentHandle) : Option Agent :=
  (platform.agentAs DeviceClass handle .device).toOption.map (agentOf platform handle)

/-- The faults met on the way through the whole platform. -/
def faults : List Failure :=
  match platform.agents with
  | .error cause => [.traversal "agent enumeration" cause]
  | .ok handles => handles.flatMap (agentFaults platform)

def found : Inventory where
  agents := (listed platform.agents).filterMap (agentFound platform)

variable {platform : Queries} {policy : Policy}

theorem kind_deviceClass (platform : Queries) (handle : AgentHandle) (deviceClass : DeviceClass) :
    (kind platform handle deviceClass).deviceClass = deviceClass := by
  cases deviceClass <;> rfl

theorem region_of_error {handle : RegionHandle} {cause : Unavailable} (counter : GlobalCounter)
    (asked : platform.regionAs Segment handle .segment = .error cause) :
    region platform handle counter = .error (.classification handle.label cause) ∧
      regionFault platform handle = some (.classification handle.label cause) ∧
      regionFound platform handle = none := by
  simp [region, regionFault, regionFound, asked, Except.toOption]

theorem region_of_ok {handle : RegionHandle} {segment : Segment} (next : Nat)
    (asked : platform.regionAs Segment handle .segment = .ok segment) :
    ∃ described, regionFound platform handle = some described ∧
      regionFault platform handle = none ∧
      region platform handle ⟨.ofNat next⟩ =
        if described.isGlobal then
          .ok ({ described with globalIndex := some (.ofNat next) }, ⟨.ofNat (next + 1)⟩)
        else .ok (described, ⟨.ofNat next⟩) := by
  refine ⟨_, by simp only [regionFound, asked]; rfl, by simp only [regionFault, asked], ?_⟩
  have advanced : UInt32.ofNat next + 1 = .ofNat (next + 1) := (UInt32.ofNat_add next 1).symm
  simp only [region, asked, MemoryRegion.isGlobal, beq_iff_eq, GlobalCounter.claim, advanced]

/-- The counter holds the number of global regions described so far. -/
theorem regions_eq (handles : List RegionHandle) (next : Nat) :
    regions platform policy handles ⟨.ofNat next⟩ =
      policy.settle (handles.filterMap (regionFault platform))
        (numberFrom next (handles.filterMap (regionFound platform))) := by
  induction handles generalizing next with
  | nil => rfl
  | cons handle rest ih =>
      cases asked : platform.regionAs Segment handle .segment with
      | error cause =>
          obtain ⟨described, fault, found⟩ := region_of_error ⟨.ofNat next⟩ asked
          rw [List.filterMap_cons_some fault, List.filterMap_cons_none found, Policy.settle_cons]
          simp only [regions, described, ih]
      | ok segment =>
          obtain ⟨described, found, fault, visited⟩ := region_of_ok next asked
          rw [List.filterMap_cons_none fault, List.filterMap_cons_some found]
          by_cases isGlobal : described.isGlobal
          · simp only [regions, visited, if_pos isGlobal, numberFrom, ih]
            rw [Policy.settle_map (_ :: ·)]
            cases policy.settle _ (numberFrom (next + 1) _) <;> rfl
          · simp only [regions, visited, if_neg isGlobal, numberFrom, ih]
            rw [Policy.settle_map (_ :: ·)]
            cases policy.settle _ (numberFrom next _) <;> rfl

theorem agent_of_error (policy : Policy) {handle : AgentHandle} {cause : Unavailable}
    (asked : platform.agentAs DeviceClass handle .device = .error cause) :
    agent platform policy handle = .error (.classification handle.label cause) ∧
      agentFaults platform handle = [.classification handle.label cause] ∧
      agentFound platform handle = none := by
  simp only [agent, agentFaults, agentFound, asked]
  exact ⟨rfl, trivial, rfl⟩

theorem agent_of_ok (policy : Policy) {handle : AgentHandle} {deviceClass : DeviceClass}
    (asked : platform.agentAs DeviceClass handle .device = .ok deviceClass) :
    agentFaults platform handle = objectFaults platform handle ∧
      agentFound platform handle = some (agentOf platform handle deviceClass) ∧
      agent platform policy handle =
        policy.settle (objectFaults platform handle) (agentOf platform handle deviceClass) := by
  refine ⟨by simp only [agentFaults, asked], by simp only [agentFound, asked]; rfl, ?_⟩
  have settled : ∀ (call : String) (cause : PlatformError),
      policy.settle [.traversal call cause] (agentOf platform handle deviceClass) =
        .error (.traversal call cause) := by
    intro call cause
    simp [Policy.settle_cons, Policy.skips, Failure.isClassification]
  have visited (regionHandles : List RegionHandle) :
      regions platform policy regionHandles .fresh =
        (policy.settle (regionHandles.filterMap (regionFault platform)) ()).map
          (fun _ => numberFrom 0 (regionHandles.filterMap (regionFound platform))) := by
    rw [← Policy.settle_map (fun _ => _)]
    exact regions_eq regionHandles 0
  simp only [agent, asked, objectFaults, bind, mapError_ok, Except.bind, visited]
  cases regionsListed : platform.regions handle with
  | error cause => exact (settled _ _).symm
  | ok regionHandles =>
      simp only [Policy.settle_append, mapError_ok]
      cases cachesListed : platform.caches handle with
      | error cause =>
          simp only [settled, mapError_error]
          cases policy.settle _ () <;> rfl
      | ok cacheHandles =>
          simp only [Policy.settle_nil, agentOf, regionsListed, cachesListed, mapError_ok]
          cases policy.settle _ () <;> rfl

theorem agents_eq (handles : List AgentHandle) :
    agents platform policy handles =
      policy.settle (handles.flatMap (agentFaults platform))
        (handles.filterMap (agentFound platform)) := by
  induction handles with
  | nil => rfl
  | cons handle rest ih =>
      rw [List.flatMap_cons]
      cases asked : platform.agentAs DeviceClass handle .device with
      | error cause =>
          obtain ⟨described, faults, found⟩ := agent_of_error policy asked
          rw [faults, List.filterMap_cons_none found, List.singleton_append, Policy.settle_cons]
          simp only [agents, described, ih]
      | ok deviceClass =>
          obtain ⟨faults, found, described⟩ := agent_of_ok policy asked
          rw [faults, List.filterMap_cons_some found, Policy.settle_append]
          rw [Policy.settle_map (fun _ => agentOf platform handle deviceClass) ()] at described
          cases ended : policy.settle (objectFaults platform handle) () with
          | error failure =>
              have kept := Policy.not_skips_of_settle ended
              simp only [agents, described, ended, Except.map, kept, Bool.false_eq_true, if_false]
              rfl
          | ok _ =>
              simp only [agents, described, ended, Except.map, ih, Except.bind]
              rw [Policy.settle_map (_ :: ·)]
              cases policy.settle _ (rest.filterMap _) <;> rfl

/-- A survey ends with the first fault that its policy does not skip, and yields
    all that can be classified if there is none. -/
theorem inventory_eq :
    inventory platform policy = policy.settle (faults platform) (found platform) := by
  unfold inventory faults found
  cases agentsListed : platform.agents with
  | error cause => simp [Policy.settle_cons, Policy.skips, Failure.isClassification]; rfl
  | ok handles =>
      simp only [mapError_ok, bind, Except.bind, agents_eq, listed_ok]
      rw [Policy.settle_map Inventory.mk]
      cases policy.settle _ (handles.filterMap _) <;> rfl

/-- The faults of a survey rest on the lists, the classes and the segments alone. -/
theorem faults_congr {left right : Queries} (agents : left.agents = right.agents)
    (regions : ∀ handle, left.regions handle = right.regions handle)
    (caches : ∀ handle, left.caches handle = right.caches handle)
    (devices : ∀ handle,
      left.agentAs DeviceClass handle .device = right.agentAs DeviceClass handle .device)
    (segments : ∀ handle,
      left.regionAs Segment handle .segment = right.regionAs Segment handle .segment) :
    faults left = faults right := by
  have regionFaults : regionFault left = regionFault right := by
    funext handle
    simp only [regionFault, segments]
  have agentFaults : agentFaults left = agentFaults right := by
    funext handle
    simp only [Survey.agentFaults, objectFaults, devices, regions, caches, regionFaults]
  simp only [faults, agents, agentFaults]

/-- Surveys that meet the same faults and describe agents alike are the same. -/
theorem inventory_congr {left right : Queries} (policy : Policy)
    (agents : left.agents = right.agents) (sameFaults : faults left = faults right)
    (devices : ∀ handle,
      left.agentAs DeviceClass handle .device = right.agentAs DeviceClass handle .device)
    (described : agentOf left = agentOf right) :
    inventory left policy = inventory right policy := by
  have agentsFound : agentFound left = agentFound right := by
    funext handle
    simp only [agentFound, devices, described]
  simp only [inventory_eq, found, agents, sameFaults, agentsFound]

theorem found_of_inventory {inventory : Inventory}
    (surveyed : Survey.inventory platform policy = .ok inventory) : found platform = inventory := by
  rw [inventory_eq, Policy.settle_eq_ok_iff] at surveyed
  exact surveyed.1

theorem faults_of_failFast {inventory : Inventory}
    (surveyed : Survey.inventory platform .failFast = .ok inventory) : faults platform = [] := by
  rw [inventory_eq, Policy.settle_eq_ok_iff] at surveyed
  apply List.eq_nil_iff_forall_not_mem.mpr
  intro failure met
  exact Bool.false_ne_true (surveyed.2 failure met)

theorem regionFault_eq_some {handle : RegionHandle} {failure : Failure}
    (fault : regionFault platform handle = some failure) :
    ∃ cause, platform.regionAs Segment handle .segment = .error cause ∧
      failure = .classification handle.label cause := by
  unfold regionFault at fault
  split at fault
  · contradiction
  · rename_i cause asked
    cases fault
    exact ⟨cause, asked, rfl⟩

/-- An object could not be classified, or a list could not be had. -/
inductive IsFault : Failure → Prop where
  | classification (object : String) (cause : Unavailable) : IsFault (.classification object cause)
  | traversal (call : String) (cause : PlatformError) : IsFault (.traversal call cause)

theorem isFault_of_objectFaults {handle : AgentHandle} {failure : Failure}
    (met : failure ∈ objectFaults platform handle) : IsFault failure := by
  unfold objectFaults at met
  split at met
  · rw [List.mem_singleton.mp met]
    exact .traversal _ _
  · rcases List.mem_append.mp met with met | met
    · obtain ⟨region, _, fault⟩ := List.mem_filterMap.mp met
      obtain ⟨cause, _, rfl⟩ := regionFault_eq_some fault
      exact .classification _ cause
    · split at met
      · rw [List.mem_singleton.mp met]
        exact .traversal _ _
      · contradiction

theorem isFault_of_faults {failure : Failure} (met : failure ∈ faults platform) :
    IsFault failure := by
  unfold faults at met
  split at met
  · rw [List.mem_singleton.mp met]
    exact .traversal _ _
  · obtain ⟨handle, _, met⟩ := List.mem_flatMap.mp met
    unfold agentFaults at met
    split at met
    · rw [List.mem_singleton.mp met]
      exact .classification _ _
    · exact isFault_of_objectFaults met

theorem isFault_of_inventory {failure : Failure}
    (failed : inventory platform policy = .error failure) : IsFault failure := by
  rw [inventory_eq] at failed
  exact isFault_of_faults (Policy.mem_of_settle failed)

end ComputeTopology.Survey
