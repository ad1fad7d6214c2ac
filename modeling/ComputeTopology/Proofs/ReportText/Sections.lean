import ComputeTopology.Proofs.Text.Trim
import ComputeTopology.ReportText

namespace ComputeTopology.ReportText

open Text.Numeral

@[simp] theorem ofLines_nil : ofLines [] = "" := rfl

theorem ofLines_cons (line : String) (rest : List String) :
    ofLines (line :: rest) = line ++ "\n" ++ ofLines rest := by
  simp only [ofLines, List.map_cons, String.join_cons]

theorem ofLines_append (front back : List String) :
    ofLines (front ++ back) = ofLines front ++ ofLines back := by
  simp only [ofLines, List.map_append, String.join_append]

/-- The lines in the section of one agent. -/
structure SectionLines where
  head : String
  kind : List String
  banks : List String
  caches : List String

namespace SectionLines

def all (part : SectionLines) : List String :=
  ["", rule '-', part.head, rule '-'] ++ part.kind ++ ["", "    Memory Banks:"] ++ part.banks ++
    ["", "    Caches:"] ++ part.caches

def ofAgent (agent : Agent) : SectionLines where
  head := nodeLine agent
  kind := kindLines agent.kind
  banks := agent.regions.map regionLine
  caches := agent.caches.map cacheLine

end SectionLines

/-- A text is a report with these lines in its header and these sections, one after another. -/
def Prints (text : String) (header : List String) (sections : List SectionLines) : Prop :=
  text = String.join ((header ++ ["", "[+] Scanning System Agents..."] ++
    sections.flatMap SectionLines.all ++ ["", "[+] Diagnostics Complete."]).map (· ++ "\n"))

theorem prints_ofInventory (facts : SystemFacts) (inventory : Inventory) :
    Prints (ofInventory facts inventory) (headerLines facts)
      (inventory.agents.map SectionLines.ofAgent) := by
  have lines : (fun agent => (SectionLines.ofAgent agent).all) = agentLines := rfl
  simp only [Prints, ofInventory, reportLines, ofLines, List.flatMap_map, lines]

/-- The sections of agents, one after another. -/
def ofAgents (agents : List Agent) : String :=
  ofLines (agents.flatMap agentLines)

@[simp] theorem ofAgents_nil : ofAgents [] = "" := rfl

theorem ofAgents_cons (agent : Agent) (rest : List Agent) :
    ofAgents (agent :: rest) = ofAgent agent ++ ofAgents rest := by
  simp only [ofAgents, ofAgent, List.flatMap_cons, ofLines_append]

theorem ofInventory_eq (facts : SystemFacts) (inventory : Inventory) :
    ofInventory facts inventory =
      ofLines (headerLines facts ++ ["", "[+] Scanning System Agents..."]) ++
        ofAgents inventory.agents ++ ofLines ["", "[+] Diagnostics Complete."] := by
  simp only [ofInventory, reportLines, ofLines_append, ofAgents]

/-- What a section says below its head. -/
def detailLines (agent : Agent) : List String :=
  kindLines agent.kind ++ ["", "    Memory Banks:"] ++ agent.regions.map regionLine ++
    ["", "    Caches:"] ++ agent.caches.map cacheLine

/-- What a section says up to the name. -/
def beforeName (nodeId : Option UInt32) : String :=
  "\n" ++ rule '-' ++ "\n" ++ " Node " ++ orElse "?" (decimal ·.toNat) nodeId ++ " ("

/-- What a section says after the name. -/
def afterName (agent : Agent) : String :=
  ")" ++ "\n" ++ rule '-' ++ "\n" ++ ofLines (detailLines agent)

theorem ofAgent_eq (agent : Agent) :
    ofAgent agent = beforeName agent.nodeId ++ shownName agent ++ afterName agent := by
  have lines : agentLines agent = ["", rule '-', nodeLine agent, rule '-'] ++ detailLines agent := by
    simp only [agentLines, detailLines, List.append_assoc]
  rw [ofAgent, lines, ofLines_append]
  simp only [ofLines_cons, ofLines_nil, nodeLine, beforeName, afterName, String.append_assoc,
    String.empty_append, String.append_empty]

/-- A name that takes in the section of one agent and the name of the next. -/
def joinedName (front back : Agent) : String :=
  shownName front ++ (afterName front ++ beforeName back.nodeId) ++ shownName back

/-- One agent in place of two. -/
def joined (front back : Agent) : Agent :=
  { back with nodeId := front.nodeId, name := joinedName front back }

/-- An agent with a name that a survey can show. -/
def Named (agent : Agent) : Prop :=
  ∃ product generic, agent.name = Agent.displayName product generic

theorem tight_shownName {agent : Agent} (named : Named agent) :
    Text.Tight (shownName agent).toList := by
  obtain ⟨product, generic, shown⟩ := named
  unfold shownName
  split
  · exact ⟨⟨'U', _, rfl, by decide⟩, ⟨"Unknown Agen".toList, 't', rfl, by decide⟩⟩
  · rename_i nonempty
    rw [String.isEmpty_iff, shown] at nonempty
    rw [shown]
    exact Agent.tight_displayName nonempty

theorem tight_joinedName {front back : Agent} (frontNamed : Named front) (backNamed : Named back) :
    Text.Tight (joinedName front back).toList := by
  simp only [joinedName, String.toList_append]
  exact (tight_shownName frontNamed).append _ (tight_shownName backNamed)

theorem shownName_of_tight {agent : Agent} (tight : Text.Tight agent.name.toList) :
    shownName agent = agent.name := by
  obtain ⟨⟨c, rest, begins, _⟩, _⟩ := tight
  have nonempty : ¬agent.name.isEmpty = true := by
    intro empty
    rw [String.isEmpty_iff.mp empty] at begins
    contradiction
  rw [shownName, if_neg nonempty]

/-- Both print alike. -/
theorem ofAgent_joined {front back : Agent} (frontNamed : Named front) (backNamed : Named back) :
    ofAgent (joined front back) = ofAgent front ++ ofAgent back := by
  have shown : shownName (joined front back) = joinedName front back :=
    shownName_of_tight (tight_joinedName frontNamed backNamed)
  simp only [ofAgent_eq, shown]
  simp only [joined, joinedName, afterName, detailLines, String.append_assoc]

/-- As few agents as one likes, but at least one, print what many do. -/
theorem exists_ofAgents_eq {holds : Agent → Prop} (named : ∀ agent, holds agent → Named agent)
    (closed : ∀ front back, holds front → holds back → holds (joined front back))
    {count surplus : Nat} (positive : 0 < count) {agents : List Agent}
    (many : agents.length = count + surplus) (all : ∀ agent ∈ agents, holds agent) :
    ∃ fewer : List Agent, fewer.length = count ∧ (∀ agent ∈ fewer, holds agent) ∧
      ofAgents fewer = ofAgents agents := by
  -- one agent less for every two that are joined at the front
  induction surplus generalizing agents with
  | zero => exact ⟨agents, many, all, rfl⟩
  | succ surplus ih =>
      match agents with
      | [] | [_] => simp at many <;> omega
      | front :: back :: rest =>
          obtain ⟨frontHolds, others⟩ := List.forall_mem_cons.mp all
          obtain ⟨backHolds, restHold⟩ := List.forall_mem_cons.mp others
          have joinedHolds := closed front back frontHolds backHolds
          have less : (joined front back :: rest).length = count + surplus := by
            simp only [List.length_cons] at many ⊢
            omega
          obtain ⟨fewer, size, hold, printed⟩ :=
            ih less (List.forall_mem_cons.mpr ⟨joinedHolds, restHold⟩)
          refine ⟨fewer, size, hold, printed.trans ?_⟩
          simp only [ofAgents_cons, String.append_assoc,
            ofAgent_joined (named front frontHolds) (named back backHolds)]

theorem toList_rule (c : Char) : (rule c).toList = List.replicate ruleWidth c := by
  rw [rule, String.toList_ofList]

/-- The rules around the head of a section. -/
theorem dashes_of_agent (facts : SystemFacts) (agent : Agent) (rest : List Agent) :
    ruleWidth ≤ (ofInventory facts ⟨agent :: rest⟩).toList.count '-' := by
  rw [ofInventory_eq, ofAgents_cons, ofAgent_eq, beforeName]
  simp only [String.toList_append, List.count_append, toList_rule, List.count_replicate_self]
  omega

/-- The end of a report on no agents. -/
def countedEnd (count : UInt32) : List Char :=
  (ofLines ["[+] Topology Nodes:        " ++ decimal count.toNat, "",
    "[+] Scanning System Agents...", "", "[+] Diagnostics Complete."]).toList

theorem ofInventory_of_counted {facts : SystemFacts} {count : UInt32}
    (counted : facts.nodeCount = some count) :
    ∃ front, (ofInventory facts ⟨[]⟩).toList = front ++ countedEnd count := by
  have header : ∃ front, headerLines facts =
      front ++ ["[+] Topology Nodes:        " ++ decimal count.toNat] := by
    rw [headerLines, counted]
    exact ⟨_, rfl⟩
  obtain ⟨front, header⟩ := header
  refine ⟨(ofLines front).toList, ?_⟩
  rw [ofInventory_eq, header, countedEnd, ← String.toList_append]
  simp only [ofAgents_nil, String.append_empty, ← ofLines_append, List.append_assoc]
  rfl

end ComputeTopology.ReportText
