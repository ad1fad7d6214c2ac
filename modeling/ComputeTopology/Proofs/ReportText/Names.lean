import ComputeTopology.Proofs.Diagnostics.Delivery
import ComputeTopology.Proofs.ReportText.Sections
import ComputeTopology.Proofs.Survey.Agreement
import ComputeTopology.Proofs.Survey.Descriptions

namespace ComputeTopology

namespace Attribute.Answer

variable {answer left right : Answer}

def text? : Answer → Option String
  | .ok (.text text) => some text
  | _ => none

/-- The name that an answer gives, without the blanks at its ends. -/
def name? (answer : Answer) : Option String :=
  answer.text?.bind Text.trimmed?

/-- The answer is no text, or a blank one. -/
def Nameless (answer : Answer) : Prop :=
  ∀ text, answer.text? = some text → Text.allBlank text.toList = true

/-- Two answers give names that differ in the blanks at their ends, or neither gives a name. -/
inductive SameName : Answer → Answer → Prop where
  | padded {left right : String} (trims : Text.trim left.toList = Text.trim right.toList) :
      SameName (.ok (.text left)) (.ok (.text right))
  | nameless {left right : Answer} (leftNameless : left.Nameless) (rightNameless : right.Nameless) :
      SameName left right

theorem text?_eq_some_iff {text : String} : answer.text? = some text ↔ answer = .ok (.text text) := by
  unfold text?
  split <;> simp_all

theorem name?_eq_none_iff : answer.name? = none ↔ answer.Nameless := by
  simp only [name?, Option.bind_eq_none_iff, Nameless, Text.trimmed?, ite_eq_left_iff,
    reduceCtorEq, imp_false, not_not]

/-- Answers are of the same name exactly if the same is left of them. -/
theorem sameName_iff : left.SameName right ↔ left.name? = right.name? := by
  constructor
  · intro same
    cases same with
    | padded trims => exact Text.trimmed?_congr trims
    | nameless leftNameless rightNameless =>
        rw [name?_eq_none_iff.mpr leftNameless, name?_eq_none_iff.mpr rightNameless]
  · intro equal
    cases named : right.name? with
    | none => exact .nameless (name?_eq_none_iff.mp (equal.trans named)) (name?_eq_none_iff.mp named)
    | some name =>
        -- Then both are texts, and the name is what is left of either.
        obtain ⟨text, told, trimmed⟩ := Option.bind_eq_some_iff.mp (equal.trans named)
        obtain ⟨other, otherTold, otherTrimmed⟩ := Option.bind_eq_some_iff.mp named
        rw [text?_eq_some_iff.mp told, text?_eq_some_iff.mp otherTold]
        obtain ⟨_, chars⟩ := Text.trimmed?_eq_some_iff.mp trimmed
        obtain ⟨_, otherChars⟩ := Text.trimmed?_eq_some_iff.mp otherTrimmed
        exact .padded (chars.symm.trans otherChars)

/-- Reading a name drops the reason why there is none. -/
theorem bind_trimmed?_read (label : String) (answer : Answer) :
    ((answer.read label : Except Unavailable String).toOption).bind Text.trimmed? = answer.name? := by
  cases answer with
  | error failure => rfl
  | ok value => cases value <;> rfl

end Attribute.Answer

open Attribute

namespace Queries

/-- The name to show, if any query for one gives any. -/
def shownName? (platform : Queries) (handle : AgentHandle) : Option String :=
  (platform.agent handle .productName).name?.or (platform.agent handle .name).name?

/-- The name in the head of an agent's section. -/
def headName (platform : Queries) (handle : AgentHandle) : String :=
  (platform.shownName? handle).getD "Unknown Agent"

/-- Two platforms that list the same objects and answer alike, save that the names of agents
    may have other blanks at their ends, and that one may have a blank name where the other has
    none. -/
structure AgreeUpToBlanks (left right : Queries) : Prop where
  agents : left.agents = right.agents
  regions : ∀ handle, left.regions handle = right.regions handle
  caches : ∀ handle, left.caches handle = right.caches handle
  system : ∀ selector, left.system selector = right.system selector
  agent : ∀ handle selector, selector ≠ .productName → selector ≠ .name →
    left.agent handle selector = right.agent handle selector
  productName : ∀ handle,
    (left.agent handle .productName).SameName (right.agent handle .productName)
  name : ∀ handle, (left.agent handle .name).SameName (right.agent handle .name)
  region : ∀ handle selector, left.region handle selector = right.region handle selector
  cache : ∀ handle selector, left.cache handle selector = right.cache handle selector

theorem AgreeUpToBlanks.alike {left right : Queries} (agree : left.AgreeUpToBlanks right) :
    left.Alike right where
  agents := agree.agents
  regions := agree.regions
  caches := agree.caches
  device handle := agree.agent handle .device (by decide) (by decide)
  segment handle := agree.region handle .segment
  versionMajor := agree.system .versionMajor
  versionMinor := agree.system .versionMinor

end Queries

namespace Survey

theorem name_eq (platform : Queries) (handle : AgentHandle) :
    name platform handle = (platform.shownName? handle).getD "" := by
  simp only [name, Agent.displayName_eq, Queries.agentAs, Answer.bind_trimmed?_read,
    Queries.shownName?]

section Agreeing

variable {left right : Queries}

theorem systemFacts_of_agreeUpToBlanks (agree : left.AgreeUpToBlanks right) :
    systemFacts left = systemFacts right := by
  simp only [systemFacts, versionPart, Queries.systemAs, agree.system]

theorem name_of_agreeUpToBlanks (agree : left.AgreeUpToBlanks right) (handle : AgentHandle) :
    name left handle = name right handle := by
  simp only [name_eq, Queries.shownName?, Answer.sameName_iff.mp (agree.productName handle),
    Answer.sameName_iff.mp (agree.name handle)]

theorem agentOf_of_agreeUpToBlanks (agree : left.AgreeUpToBlanks right) :
    agentOf left = agentOf right := by
  funext handle deviceClass
  have word (selector : AgentAttribute) (product : selector ≠ .productName)
      (generic : selector ≠ .name) :
      left.agentAs UInt32 handle selector = right.agentAs UInt32 handle selector := by
    simp only [Queries.agentAs, agree.agent handle selector product generic]
  have kinds : kind left handle deviceClass = kind right handle deviceClass := by
    cases deviceClass <;> simp [kind, gpuFigures, word]
  have regions : regionFound left = regionFound right := by
    funext region
    simp only [regionFound, Queries.regionAs, agree.region]
  have caches : cache left = cache right := by
    funext handle
    simp only [cache, Queries.cacheAs, agree.cache]
  simp only [agentOf, word .nodeId (by decide) (by decide), name_of_agreeUpToBlanks agree, kinds,
    agree.regions, regions, agree.caches, caches]

theorem inventory_of_agreeUpToBlanks (agree : left.AgreeUpToBlanks right) (policy : Policy) :
    inventory left policy = inventory right policy :=
  inventory_congr policy agree.agents (faults_of_alike agree.alike)
    (agentAs_device_of_alike agree.alike) (agentOf_of_agreeUpToBlanks agree)

end Agreeing

end Survey

namespace ReportText

open Text.Numeral

variable {platform : Queries} {handle : AgentHandle} {agent : Agent}

/-- A section has the name that the platform gives its agent in the head. -/
def IsHeaded (platform : Queries) (handle : AgentHandle) (part : SectionLines) : Prop :=
  part.head =
    " Node " ++ orElse "?" (decimal ·.toNat) (platform.agentAs UInt32 handle .nodeId).toOption ++
      " (" ++ platform.headName handle ++ ")"

theorem shownName_of_describes (describes : Survey.DescribesAgent platform handle agent) :
    shownName agent = platform.headName handle := by
  rw [shownName, describes.name, Survey.name_eq, Queries.headName]
  cases shown : platform.shownName? handle with
  | none => rfl
  | some name =>
      have nonempty : name ≠ "" := by
        rcases Option.or_eq_some_iff.mp shown with product | ⟨_, generic⟩
        · obtain ⟨_, _, trimmed⟩ := Option.bind_eq_some_iff.mp product
          exact Text.ne_empty_of_trimmed? trimmed
        · obtain ⟨_, _, trimmed⟩ := Option.bind_eq_some_iff.mp generic
          exact Text.ne_empty_of_trimmed? trimmed
      rw [Option.getD_some, Option.getD_some, if_neg (mt String.isEmpty_iff.mp nonempty)]

theorem isHeaded_of_describes (describes : Survey.DescribesAgent platform handle agent) :
    IsHeaded platform handle (SectionLines.ofAgent agent) := by
  rw [IsHeaded, SectionLines.ofAgent, nodeLine, describes.nodeId, shownName_of_describes describes]

end ReportText

namespace Diagnostics

theorem report_of_agreeUpToBlanks {left right : Queries} (agree : left.AgreeUpToBlanks right)
    (policy : Survey.Policy) : report left policy = report right policy := by
  simp only [report, Survey.systemFacts_of_agreeUpToBlanks agree,
    Survey.inventory_of_agreeUpToBlanks agree]

/-- A report has a section for each agent that has a class, and every head shows the product
    name of its agent without the blanks at its ends, or else the generic name so, or else a
    placeholder. It is the report that a run writes. Platforms that differ in the blanks at the
    ends of names, or in why there is no name, have the same report, and the runs over them are
    the same if the platforms shut down alike. -/
theorem heads_show_trimmed_names :
    (∀ (platform : Queries) policy text, report platform policy = .ok text →
      ∃ facts inventory sections, Survey.systemFacts platform = .ok facts ∧
        Survey.inventory platform policy = .ok inventory ∧
        sections = inventory.agents.map ReportText.SectionLines.ofAgent ∧
        ReportText.Prints text (ReportText.headerLines facts) sections ∧
        List.Forall₂ (ReportText.IsHeaded platform) (Survey.classifiedAgents platform) sections) ∧
    (∀ (σ : Type) [Platform σ] (platform : σ) policy sink,
      (run (.ok platform) policy sink).sink =
        (deliver sink (report (Platform.queries platform) policy)).2) ∧
    ∀ (σ τ : Type) [Platform σ] [Platform τ] (left : σ) (right : τ),
      (Platform.queries left).AgreeUpToBlanks (Platform.queries right) →
      ∀ policy,
        report (Platform.queries left) policy = report (Platform.queries right) policy ∧
        ((Platform.shutDown left).1 = (Platform.shutDown right).1 →
          ∀ sink, run (.ok left) policy sink = run (.ok right) policy sink) := by
  refine ⟨?_, fun _ _ _ => run_sink, ?_⟩
  · intro platform policy text reported
    obtain ⟨facts, inventory, known, surveyed, rfl⟩ := report_eq_ok_iff.mp reported
    refine ⟨facts, inventory, _, known, surveyed, rfl, ReportText.prints_ofInventory facts inventory, ?_⟩
    rw [List.forall₂_map_right_iff]
    exact (Survey.described_of_inventory surveyed).imp fun _ _ => ReportText.isHeaded_of_describes
  · intro σ τ _ _ left right agree policy
    exact ⟨report_of_agreeUpToBlanks agree policy, fun ended sink =>
      run_congr policy sink (Survey.systemFacts_of_agreeUpToBlanks agree)
        (Survey.inventory_of_agreeUpToBlanks agree policy) ended⟩

end Diagnostics

/-- The name in an answer with a blank at either end, and a blank one in place of none. -/
def Attribute.Answer.padded : Answer → Answer
  | .ok (.text text) => .ok (.text ("\t" ++ text ++ "\n"))
  | _ => .ok (.text "\u3000")

theorem Attribute.Answer.sameName_padded (answer : Answer) : answer.SameName answer.padded := by
  have blank : Nameless (.ok (.text "\u3000")) := by
    rintro _ ⟨⟩
    decide
  cases answer with
  | error failure => exact .nameless (fun _ told => by contradiction) blank
  | ok value =>
      cases value with
      | text text =>
          refine .padded ?_
          rw [String.toList_append, String.toList_append]
          exact ((Text.trim_concat (by decide) _).trans (Text.trim_cons (by decide) _)).symm
      | _ => exact .nameless (fun _ told => by contradiction) blank

/-- The platform that answers with padded names. -/
def Queries.padded (platform : Queries) : Queries :=
  { platform with
    agent := fun handle selector =>
      if selector = .productName ∨ selector = .name then (platform.agent handle selector).padded
      else platform.agent handle selector }

theorem Queries.agree_padded (platform : Queries) : platform.AgreeUpToBlanks platform.padded where
  agents := rfl
  regions _ := rfl
  caches _ := rfl
  system _ := rfl
  agent _ _ product generic := (if_neg (not_or.mpr ⟨product, generic⟩)).symm
  productName _ := Answer.sameName_padded _
  name _ := Answer.sameName_padded _
  region _ _ := rfl
  cache _ _ := rfl

/-- A platform behind padded names. -/
structure Padded (σ : Type) where
  platform : σ

instance {σ : Type} [Platform σ] : Platform (Padded σ) where
  queries padded := (Platform.queries padded.platform).padded
  shutDown padded := ((Platform.shutDown padded.platform).1, ⟨(Platform.shutDown padded.platform).2⟩)

namespace Diagnostics

theorem outspoken_and_padded_report_alike :
    let padded : Padded PlatformTable := ⟨PlatformTable.outspoken⟩
    (Platform.queries padded).agent ⟨3⟩ .productName = .ok (.text "\u3000") ∧
      (Platform.queries padded).agent ⟨3⟩ .name = .ok (.text "\tgfx1030\n") ∧
      (∃ header text part,
        report PlatformTable.outspoken.queries .failFast = .ok text ∧
        report (Platform.queries padded) .failFast = .ok text ∧
        ReportText.Prints text header [part] ∧ part.head = " Node ? (gfx1030)" ∧
        (run (.ok PlatformTable.outspoken) .failFast .unlimited).sink.received =
          Sink.encode text) ∧
      run (.ok PlatformTable.outspoken) .failFast .unlimited =
        run (.ok padded) .failFast .unlimited := by
  intro padded
  obtain ⟨headed, delivered, alike⟩ := heads_show_trimmed_names
  obtain ⟨sameReport, sameRun⟩ := alike PlatformTable (Padded PlatformTable) .outspoken padded
    (Queries.agree_padded _) .failFast
  refine ⟨rfl, rfl, ?_, sameRun rfl .unlimited⟩
  have composed : (report PlatformTable.outspoken.queries .failFast).isOk = true := by
    decide +kernel
  have classified : Survey.classifiedAgents PlatformTable.outspoken.queries = [⟨3⟩] := by
    decide +kernel
  have head : PlatformTable.outspoken.queries.headName ⟨3⟩ = "gfx1030" := by
    decide +kernel
  cases reported : report PlatformTable.outspoken.queries .failFast with
  | error failure =>
      rw [reported] at composed
      contradiction
  | ok text =>
      obtain ⟨facts, _, sections, _, _, _, prints, heads⟩ := headed _ _ _ reported
      rw [classified] at heads
      obtain ⟨part, rfl, isHeaded⟩ := forall₂_singleton_iff.mp heads
      refine ⟨_, text, part, rfl, sameReport.symm.trans reported, prints, ?_, ?_⟩
      · rw [isHeaded, head]
        rfl
      · rw [delivered]
        exact congrArg (fun report => (deliver .unlimited report).2.received) reported

end Diagnostics

end ComputeTopology
