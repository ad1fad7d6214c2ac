import ComputeTopology.Proofs.Diagnostics.Stages
import ComputeTopology.Proofs.Survey.Agreement
import ComputeTopology.Proofs.Survey.Descriptions

namespace ComputeTopology

/-- The bits of the numbers that a survey asks of the system. -/
def SystemAttribute.bits : SystemAttribute → Nat
  | .versionMajor | .versionMinor => 16
  | .platformOem => 64
  | .generationId | .platformId | .platformRevision | .nodeCount => 32

/-- The bits of the numbers that a survey asks of an agent. Not everything is a number. -/
def AgentAttribute.bits? : AgentAttribute → Option Nat
  | .name | .productName | .device => none
  | .nodeId | .computeUnitCount | .simdsPerUnit | .maxWavesPerUnit | .chipId | .slotId | .domain =>
      some 32

def RegionAttribute.bits? : RegionAttribute → Option Nat
  | .size => some 64
  | .segment | .hostAccessible => none

def CacheAttribute.bits : CacheAttribute → Nat
  | .level => 8
  | .size | .associativity => 32

namespace Attribute

/-- The width of an unsigned number in bits, and the number. -/
def Value.unsigned? : Value → Option (Nat × Nat)
  | .u8 value => some (8, value.toNat)
  | .u16 value => some (16, value.toNat)
  | .u32 value => some (32, value.toNat)
  | .u64 value => some (64, value.toNat)
  | _ => none

/-- The number of a value that has at most so many bits. -/
def Value.number? (bits : Nat) (value : Value) : Option Nat :=
  (value.unsigned?.filter (·.1 ≤ bits)).map (·.2)

namespace Answer

def number? (bits : Nat) (answer : Answer) : Option Nat :=
  answer.toOption.bind (·.number? bits)

/-- The answer is a number, but in more than so many bits. -/
def TooWide (bits : Nat) (answer : Answer) : Prop :=
  ∃ value width number, answer = .ok value ∧ value.unsigned? = some (width, number) ∧ bits < width

/-- Two answers are the same, or the same number in widths of at most so many bits. -/
inductive Agree (bits? : Option Nat) : Answer → Answer → Prop where
  | same (answer : Answer) : Agree bits? answer answer
  | number {bits leftWidth rightWidth number : Nat} {left right : Value} (asked : bits? = some bits)
      (leftHolds : left.unsigned? = some (leftWidth, number)) (leftFits : leftWidth ≤ bits)
      (rightHolds : right.unsigned? = some (rightWidth, number)) (rightFits : rightWidth ≤ bits) :
      Agree bits? (.ok left) (.ok right)

theorem Agree.eq {left right : Answer} (agree : Agree none left right) : left = right := by
  cases agree with
  | same => rfl
  | number asked => contradiction

theorem number?_of_tooWide {bits : Nat} {answer : Answer} (wide : answer.TooWide bits) :
    answer.number? bits = none := by
  obtain ⟨value, width, number, rfl, holds, exceeds⟩ := wide
  simp [number?, Value.number?, Except.toOption, holds, exceeds]

end Answer

/-- A type that is read as a number of at most so many bits. -/
class ReadsNumber (α : Type) [Word α] [Readable α] (bits : outParam Nat) : Prop where
  toNat_ofValue? : ∀ value : Value,
    (Readable.ofValue? value : Option α).map Word.toNat = value.number? bits

instance : ReadsNumber UInt8 8 where
  toNat_ofValue? value := by cases value <;> rfl

instance : ReadsNumber UInt16 16 where
  toNat_ofValue? value := by cases value <;> rfl

instance : ReadsNumber UInt32 32 where
  toNat_ofValue? value := by cases value <;> rfl

instance : ReadsNumber UInt64 64 where
  toNat_ofValue? value := by cases value <;> rfl

section Reading

variable {α : Type} [Word α] [Readable α] {bits : Nat} [ReadsNumber α bits]

theorem toNat_read (label : String) (answer : Answer) :
    ((answer.read label : Except Unavailable α).toOption).map Word.toNat = answer.number? bits := by
  cases answer with
  | error failure => rfl
  | ok value =>
      have same := ReadsNumber.toNat_ofValue? (α := α) value
      simp only [Answer.read, Answer.number?, Except.toOption, Option.bind_some, ← same]
      cases (Readable.ofValue? value : Option α) <;> rfl

theorem read_of_agree {left right : Answer} (label : String)
    (agree : Answer.Agree (some bits) left right) :
    (left.read label : Except Unavailable α) = right.read label := by
  cases agree with
  | same => rfl
  | @number limit leftWidth rightWidth number left right asked leftHolds leftFits rightHolds rightFits =>
      cases asked
      have leftReads := ReadsNumber.toNat_ofValue? (α := α) left
      have rightReads := ReadsNumber.toNat_ofValue? (α := α) right
      simp only [Value.number?, leftHolds, rightHolds, Option.filter_some, leftFits, rightFits,
        decide_true, if_true, Option.map_some] at leftReads rightReads
      obtain ⟨word, leftWord, leftNumber⟩ := Option.map_eq_some_iff.mp leftReads
      obtain ⟨other, rightWord, rightNumber⟩ := Option.map_eq_some_iff.mp rightReads
      have equal : word = other := by
        rw [← Word.ofNat_toNat word, leftNumber, ← rightNumber, Word.ofNat_toNat]
      simp only [Answer.read, leftWord, rightWord, equal]

end Reading

end Attribute

open Attribute

/-- Two platforms that list the same objects and answer alike, save that a number may come in
    different widths of at most as many bits as are asked for. -/
structure Queries.AgreeUpToWidth (left right : Queries) : Prop where
  agents : left.agents = right.agents
  regions : ∀ handle, left.regions handle = right.regions handle
  caches : ∀ handle, left.caches handle = right.caches handle
  system : ∀ selector,
    Answer.Agree (some selector.bits) (left.system selector) (right.system selector)
  agent : ∀ handle selector,
    Answer.Agree selector.bits? (left.agent handle selector) (right.agent handle selector)
  region : ∀ handle selector,
    Answer.Agree selector.bits? (left.region handle selector) (right.region handle selector)
  cache : ∀ handle selector,
    Answer.Agree (some selector.bits) (left.cache handle selector) (right.cache handle selector)

namespace Survey

section Agreeing

variable {left right : Queries}

theorem agentAs_device_of_agree (agree : left.AgreeUpToWidth right) (handle : AgentHandle) :
    left.agentAs DeviceClass handle .device = right.agentAs DeviceClass handle .device := by
  simp only [Queries.agentAs, (agree.agent handle .device).eq]

theorem regionAs_segment_of_agree (agree : left.AgreeUpToWidth right) (handle : RegionHandle) :
    left.regionAs Segment handle .segment = right.regionAs Segment handle .segment := by
  simp only [Queries.regionAs, (agree.region handle .segment).eq]

theorem systemFacts_of_agree (agree : left.AgreeUpToWidth right) :
    systemFacts left = systemFacts right := by
  have version (selector : SystemAttribute) (asked : selector.bits = 16) :
      versionPart left selector = versionPart right selector := by
    simp only [versionPart, Queries.systemAs, read_of_agree _ (asked ▸ agree.system selector)]
  have word (selector : SystemAttribute) (asked : selector.bits = 32) :
      left.systemAs UInt32 selector = right.systemAs UInt32 selector :=
    read_of_agree _ (asked ▸ agree.system selector)
  have platformOem : left.systemAs UInt64 .platformOem = right.systemAs UInt64 .platformOem :=
    read_of_agree _ (agree.system .platformOem)
  simp only [systemFacts, version .versionMajor rfl, version .versionMinor rfl, platformOem,
    word .generationId rfl, word .platformId rfl, word .platformRevision rfl, word .nodeCount rfl]

theorem regionFound_of_agree (agree : left.AgreeUpToWidth right) :
    regionFound left = regionFound right := by
  funext handle
  have size : left.regionAs UInt64 handle .size = right.regionAs UInt64 handle .size :=
    read_of_agree _ (agree.region handle .size)
  have hostAccessible :
      left.regionAs Bool handle .hostAccessible = right.regionAs Bool handle .hostAccessible := by
    simp only [Queries.regionAs, (agree.region handle .hostAccessible).eq]
  simp only [regionFound, regionAs_segment_of_agree agree, size, hostAccessible]

theorem cache_of_agree (agree : left.AgreeUpToWidth right) : cache left = cache right := by
  funext handle
  have level : left.cacheAs UInt8 handle .level = right.cacheAs UInt8 handle .level :=
    read_of_agree _ (agree.cache handle .level)
  have size : left.cacheAs UInt32 handle .size = right.cacheAs UInt32 handle .size :=
    read_of_agree _ (agree.cache handle .size)
  have associativity :
      left.cacheAs UInt32 handle .associativity = right.cacheAs UInt32 handle .associativity :=
    read_of_agree _ (agree.cache handle .associativity)
  simp only [cache, level, size, associativity]

theorem agentOf_of_agree (agree : left.AgreeUpToWidth right) : agentOf left = agentOf right := by
  funext handle deviceClass
  have word (selector : AgentAttribute) (asked : selector.bits? = some 32) :
      left.agentAs UInt32 handle selector = right.agentAs UInt32 handle selector :=
    read_of_agree _ (asked ▸ agree.agent handle selector)
  have figures : gpuFigures left handle = gpuFigures right handle := by
    simp only [gpuFigures, word .computeUnitCount rfl, word .simdsPerUnit rfl,
      word .maxWavesPerUnit rfl, word .chipId rfl, word .slotId rfl, word .domain rfl]
  have kinds : kind left handle deviceClass = kind right handle deviceClass := by
    cases deviceClass <;> simp only [kind, figures, word .computeUnitCount rfl]
  have names : name left handle = name right handle := by
    simp only [name, Queries.agentAs, (agree.agent handle .productName).eq,
      (agree.agent handle .name).eq]
  simp only [agentOf, word .nodeId rfl, names, kinds, agree.regions, agree.caches,
    regionFound_of_agree agree, cache_of_agree agree]

theorem inventory_of_agree (agree : left.AgreeUpToWidth right) (policy : Policy) :
    inventory left policy = inventory right policy := by
  have faultsAgree : faults left = faults right :=
    faults_congr agree.agents agree.regions agree.caches (agentAs_device_of_agree agree)
      (regionAs_segment_of_agree agree)
  exact inventory_congr policy agree.agents faultsAgree (agentAs_device_of_agree agree)
    (agentOf_of_agree agree)

end Agreeing

end Survey

namespace Queries

variable (platform : Queries)

def systemNumber? (selector : SystemAttribute) : Option Nat :=
  (platform.system selector).number? selector.bits

def agentNumber? (handle : AgentHandle) (selector : AgentAttribute) : Option Nat :=
  selector.bits?.bind (platform.agent handle selector).number?

def regionNumber? (handle : RegionHandle) (selector : RegionAttribute) : Option Nat :=
  selector.bits?.bind (platform.region handle selector).number?

def cacheNumber? (handle : CacheHandle) (selector : CacheAttribute) : Option Nat :=
  (platform.cache handle selector).number? selector.bits

end Queries

/-- The facts are the numbers that the platform answers with in the widths asked for. -/
structure SystemFacts.Reports (platform : Queries) (facts : SystemFacts) : Prop where
  major : some facts.version.major.toNat = platform.systemNumber? .versionMajor
  minor : some facts.version.minor.toNat = platform.systemNumber? .versionMinor
  generationId : facts.generationId.map UInt32.toNat = platform.systemNumber? .generationId
  platformOem : facts.platformOem.map UInt64.toNat = platform.systemNumber? .platformOem
  platformId : facts.platformId.map UInt32.toNat = platform.systemNumber? .platformId
  platformRevision :
    facts.platformRevision.map UInt32.toNat = platform.systemNumber? .platformRevision
  nodeCount : facts.nodeCount.map UInt32.toNat = platform.systemNumber? .nodeCount

structure Cache.Reports (platform : Queries) (handle : CacheHandle) (cache : Cache) : Prop where
  level : cache.level.map UInt8.toNat = platform.cacheNumber? handle .level
  sizeBytes : cache.sizeBytes.map UInt32.toNat = platform.cacheNumber? handle .size
  associativity : cache.associativity.map UInt32.toNat = platform.cacheNumber? handle .associativity

/-- A figure per SIMD is zero where a compute unit has no SIMDs, whatever the waves. -/
structure GpuFigures.Reports (platform : Queries) (handle : AgentHandle) (figures : GpuFigures) :
    Prop where
  computeUnits : figures.computeUnits.map UInt32.toNat = platform.agentNumber? handle .computeUnitCount
  totalSimds : figures.totalSimds.map UInt64.toNat =
    (platform.agentNumber? handle .computeUnitCount).bind fun units =>
      (platform.agentNumber? handle .simdsPerUnit).map (units * ·)
  wavesPerSimd : figures.wavesPerSimd.map UInt32.toNat =
    (platform.agentNumber? handle .simdsPerUnit).bind fun simds =>
      if simds = 0 then some 0 else (platform.agentNumber? handle .maxWavesPerUnit).map (· / simds)
  chipId : figures.chipId.map UInt32.toNat = platform.agentNumber? handle .chipId
  locationId : figures.locationId.map UInt32.toNat = platform.agentNumber? handle .slotId
  domain : figures.domain.map UInt32.toNat = platform.agentNumber? handle .domain

def AgentKind.Reports (platform : Queries) (handle : AgentHandle) : AgentKind → Prop
  | .cpu cores => cores.map UInt32.toNat = platform.agentNumber? handle .computeUnitCount
  | .gpu figures => figures.Reports platform handle
  | .other => True

structure Agent.Reports (platform : Queries) (handle : AgentHandle) (agent : Agent) : Prop where
  nodeId : agent.nodeId.map UInt32.toNat = platform.agentNumber? handle .nodeId
  kind : agent.kind.Reports platform handle
  regions : List.Forall₂
    (fun region described =>
      described.sizeBytes.map UInt64.toNat = platform.regionNumber? region .size)
    (Survey.classifiedRegions platform handle) agent.regions
  caches : List.Forall₂ (fun cache described => described.Reports platform cache)
    (Survey.listed (platform.caches handle)) agent.caches

namespace Survey

variable {platform : Queries}

theorem versionPart_eq_ok {selector : SystemAttribute} {part : UInt16}
    (known : versionPart platform selector = .ok part) :
    (platform.systemAs UInt16 selector).toOption = some part := by
  unfold versionPart at known
  cases asked : platform.systemAs UInt16 selector with
  | error cause => simp [asked] at known
  | ok found =>
      rw [asked, mapError_ok] at known
      exact congrArg some (Except.ok.inj known)

theorem reports_of_systemFacts {facts : SystemFacts} (known : systemFacts platform = .ok facts) :
    facts.Reports platform := by
  unfold systemFacts at known
  cases majorKnown : versionPart platform .versionMajor with
  | error failure => simp [majorKnown, bind, Except.bind] at known
  | ok major =>
    cases minorKnown : versionPart platform .versionMinor with
    | error failure => simp [majorKnown, minorKnown, bind, Except.bind] at known
    | ok minor =>
      rw [majorKnown, minorKnown] at known
      cases known
      have version {selector : SystemAttribute} {part : UInt16} (asked : selector.bits = 16)
          (read : versionPart platform selector = .ok part) :
          some part.toNat = platform.systemNumber? selector := by
        rw [Queries.systemNumber?, asked, ← toNat_read (α := UInt16) selector.label]
        exact congrArg (Option.map UInt16.toNat) (versionPart_eq_ok read).symm
      exact ⟨version rfl majorKnown, version rfl minorKnown, toNat_read _ _, toNat_read _ _,
        toNat_read _ _, toNat_read _ _, toNat_read _ _⟩

theorem cache_reports (handle : CacheHandle) :
    (cache platform handle).Reports platform handle :=
  ⟨toNat_read _ _, toNat_read _ _, toNat_read _ _⟩

theorem gpuFigures_reports (handle : AgentHandle) :
    (gpuFigures platform handle).Reports platform handle := by
  have number (selector : AgentAttribute) (asked : selector.bits? = some 32) :
      ((platform.agentAs UInt32 handle selector).toOption).map UInt32.toNat =
        platform.agentNumber? handle selector := by
    rw [Queries.agentNumber?, asked]
    exact toNat_read _ _
  refine ⟨number _ rfl, ?_, ?_, number _ rfl, number _ rfl, number _ rfl⟩
  · rw [gpuFigures, GpuFigures.derive, GpuFigures.toNat_totalSimds?, number _ rfl, number _ rfl]
  · rw [gpuFigures, GpuFigures.derive, GpuFigures.toNat_wavesPerSimd?, number _ rfl, number _ rfl]

theorem kind_reports (handle : AgentHandle) (deviceClass : DeviceClass) :
    (kind platform handle deviceClass).Reports platform handle := by
  cases deviceClass with
  | cpu => exact toNat_read _ _
  | gpu => exact gpuFigures_reports handle
  | other => trivial

theorem reports_of_describes {handle : AgentHandle} {agent : Agent}
    (describes : DescribesAgent platform handle agent) : agent.Reports platform handle where
  nodeId := by
    rw [describes.nodeId]
    exact toNat_read _ _
  kind := describes.kind ▸ kind_reports handle agent.deviceClass
  regions := describes.regions.imp fun region described describesRegion => by
    rw [describesRegion.sizeBytes]
    exact toNat_read _ _
  caches := by
    rw [describes.caches, List.forall₂_map_right_iff]
    exact List.forall₂_same.mpr fun handle _ => cache_reports handle

theorem versionPart_of_tooWide {selector : SystemAttribute}
    (wide : (platform.system selector).TooWide 16) :
    ∃ cause, versionPart platform selector = .error (.initialization "system version query" cause) := by
  have unread := toNat_read (α := UInt16) selector.label (platform.system selector)
  rw [Answer.number?_of_tooWide wide, Option.map_eq_none_iff] at unread
  unfold versionPart Queries.systemAs
  cases read : ((platform.system selector).read selector.label : Except Unavailable UInt16) with
  | error cause => exact ⟨_, rfl⟩
  | ok part => simp [read, Except.toOption] at unread

/-- Whichever part of the version is too wide, there are no facts about the system. -/
theorem systemFacts_of_tooWide {selector : SystemAttribute}
    (version : selector = .versionMajor ∨ selector = .versionMinor)
    (wide : (platform.system selector).TooWide 16) :
    ∃ cause, systemFacts platform = .error (.initialization "system version query" cause) := by
  cases majorKnown : versionPart platform .versionMajor with
  | error failure =>
      obtain ⟨cause, rfl⟩ := versionPart_error majorKnown
      exact ⟨cause, systemFacts_of_major_error majorKnown⟩
  | ok major =>
      rcases version with rfl | rfl
      · obtain ⟨cause, failed⟩ := versionPart_of_tooWide wide
        rw [majorKnown] at failed
        contradiction
      · obtain ⟨cause, failed⟩ := versionPart_of_tooWide wide
        exact ⟨cause, systemFacts_of_minor_error majorKnown failed⟩

/-- The widths of numbers do not show as long as they are at most those asked for, and what is
    described are the numbers in such widths. A number in a greater width is none, so a run
    over a platform whose version is one fails and writes nothing. -/
theorem numbers_are_read_up_to_width :
    (∀ left right : Queries, left.AgreeUpToWidth right →
      systemFacts left = systemFacts right ∧
        ∀ policy, inventory left policy = inventory right policy) ∧
    (∀ platform : Queries,
      (∀ facts, systemFacts platform = .ok facts → facts.Reports platform) ∧
        ∀ policy inventory, Survey.inventory platform policy = .ok inventory →
          List.Forall₂ (fun handle agent => agent.Reports platform handle)
            (classifiedAgents platform) inventory.agents) ∧
    (∀ bits (answer : Answer), answer.TooWide bits → answer.number? bits = none) ∧
    ∀ (σ : Type) [Platform σ] (platform : σ) selector,
      selector = .versionMajor ∨ selector = .versionMinor →
      ((Platform.queries platform).system selector).TooWide selector.bits →
      ∃ cause, systemFacts (Platform.queries platform) =
          .error (.initialization "system version query" cause) ∧
        ∀ policy sink,
          (Diagnostics.run (.ok platform) policy sink).result =
              .error (.topology (.initialization "system version query" cause)) ∧
            (Diagnostics.run (.ok platform) policy sink).sink = sink := by
  refine ⟨fun left right agree => ⟨systemFacts_of_agree agree, inventory_of_agree agree⟩,
    fun platform => ⟨fun facts => reports_of_systemFacts, fun policy inventory surveyed => ?_⟩,
    fun bits answer => Answer.number?_of_tooWide, ?_⟩
  · exact (described_of_inventory surveyed).imp fun handle agent => reports_of_describes
  · intro σ _ platform selector version wide
    have asked : selector.bits = 16 := by rcases version with rfl | rfl <;> rfl
    obtain ⟨cause, failed⟩ := systemFacts_of_tooWide version (asked ▸ wide)
    exact ⟨cause, failed, fun policy sink => Diagnostics.run_of_facts_error policy sink failed⟩

end Survey

/-- The same value in the next width, if so many bits are asked for. -/
def Attribute.Value.widened (bits : Nat) (value : Value) : Value :=
  match value with
  | .u8 number => if 16 ≤ bits then .u16 number.toUInt16 else value
  | .u16 number => if 32 ≤ bits then .u32 number.toUInt32 else value
  | _ => value

def Attribute.Answer.widened : Option Nat → Answer → Answer
  | some bits, .ok value => .ok (value.widened bits)
  | _, answer => answer

/-- The platform that answers with wider numbers where it may. -/
def Queries.widened (platform : Queries) : Queries :=
  { platform with
    system := fun selector => (platform.system selector).widened (some selector.bits)
    agent := fun handle selector => (platform.agent handle selector).widened selector.bits?
    region := fun handle selector => (platform.region handle selector).widened selector.bits?
    cache := fun handle selector => (platform.cache handle selector).widened (some selector.bits) }

theorem Attribute.Answer.agree_widened (bits? : Option Nat) (answer : Answer) :
    answer.Agree bits? (answer.widened bits?) := by
  cases answer with
  | error failure => cases bits? <;> exact .same _
  | ok value =>
    cases bits? with
    | none => exact .same _
    | some bits =>
      cases value with
      | u8 number =>
          by_cases room : 16 ≤ bits
          · simp only [widened, Value.widened, if_pos room]
            exact .number rfl rfl (by omega) (congrArg (fun n => some (16, n)) number.toNat_toUInt16)
              room
          · simp only [widened, Value.widened, if_neg room]
            exact .same _
      | u16 number =>
          by_cases room : 32 ≤ bits
          · simp only [widened, Value.widened, if_pos room]
            exact .number rfl rfl (by omega) (congrArg (fun n => some (32, n)) number.toNat_toUInt32)
              room
          · simp only [widened, Value.widened, if_neg room]
            exact .same _
      | _ => exact .same _

theorem Queries.agree_widened (platform : Queries) : platform.AgreeUpToWidth platform.widened where
  agents := rfl
  regions _ := rfl
  caches _ := rfl
  system _ := Answer.agree_widened _ _
  agent _ _ := Answer.agree_widened _ _
  region _ _ := Answer.agree_widened _ _
  cache _ _ := Answer.agree_widened _ _

/-- A platform whose version would fit 16 bits and comes in more. -/
def PlatformTable.wideVersion : PlatformTable :=
  { PlatformTable.outspoken with
    system := [(.versionMajor, .ok (.u16 1)), (.versionMinor, .ok (.u32 2))] }

namespace Survey

theorem numbers_of_outspoken_are_read :
    (∃ facts inventory,
      systemFacts PlatformTable.outspoken.queries = .ok facts ∧
      systemFacts PlatformTable.outspoken.queries.widened = .ok facts ∧
      Survey.inventory PlatformTable.outspoken.queries .failFast = .ok inventory ∧
      Survey.inventory PlatformTable.outspoken.queries.widened .failFast = .ok inventory ∧
      PlatformTable.outspoken.queries.agent ⟨3⟩ .simdsPerUnit ≠
        PlatformTable.outspoken.queries.widened.agent ⟨3⟩ .simdsPerUnit ∧
      (PlatformTable.outspoken.queries.agent ⟨3⟩ .nodeId).TooWide 32 ∧
      facts.version.minor = 2 ∧ inventory.agents.map (·.nodeId) = [none]) ∧
    ∃ cause, (Diagnostics.run (.ok PlatformTable.wideVersion) .skipObject .unlimited).result =
      .error (.topology (.initialization "system version query" cause)) := by
  obtain ⟨agreeing, reporting, unread, failing⟩ := numbers_are_read_up_to_width
  have wideNode : (PlatformTable.outspoken.queries.agent ⟨3⟩ .nodeId).TooWide 32 :=
    ⟨.u64 5, 64, 5, rfl, rfl, by decide⟩
  have wideMinor : (PlatformTable.wideVersion.queries.system .versionMinor).TooWide 16 :=
    ⟨.u32 2, 32, 2, rfl, rfl, by decide⟩
  constructor
  · obtain ⟨sameFacts, sameInventory⟩ :=
      agreeing _ _ (Queries.agree_widened PlatformTable.outspoken.queries)
    obtain ⟨factsReport, inventoriesReport⟩ := reporting PlatformTable.outspoken.queries
    have known : (systemFacts PlatformTable.outspoken.queries).isOk = true := by decide +kernel
    have surveyed : (Survey.inventory PlatformTable.outspoken.queries .failFast).isOk = true := by
      decide +kernel
    have classified : classifiedAgents PlatformTable.outspoken.queries = [⟨3⟩] := by decide +kernel
    cases factsFound : systemFacts PlatformTable.outspoken.queries with
    | error failure =>
        rw [factsFound] at known
        contradiction
    | ok facts =>
      cases found : Survey.inventory PlatformTable.outspoken.queries .failFast with
      | error failure =>
          rw [found] at surveyed
          contradiction
      | ok inventory =>
        refine ⟨facts, inventory, rfl, sameFacts ▸ factsFound, rfl, sameInventory .failFast ▸ found,
          by decide +kernel, wideNode, ?_, ?_⟩
        · have minor := (factsReport facts factsFound).minor
          have number : PlatformTable.outspoken.queries.systemNumber? .versionMinor = some 2 := by
            decide +kernel
          exact UInt16.toNat_inj.mp (Option.some.inj (minor.trans number))
        · have reports := inventoriesReport _ _ found
          rw [classified] at reports
          obtain ⟨agent, agents, reported⟩ := forall₂_singleton_iff.mp reports
          have node : agent.nodeId.map UInt32.toNat = none :=
            reported.nodeId.trans (unread 32 _ wideNode)
          rw [agents, List.map_singleton, Option.map_eq_none_iff.mp node]
  · obtain ⟨cause, _, ends⟩ :=
      failing PlatformTable PlatformTable.wideVersion .versionMinor (.inr rfl) wideMinor
    exact ⟨cause, (ends _ _).1⟩

end Survey

end ComputeTopology
