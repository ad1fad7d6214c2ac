import Mathlib.Algebra.GroupWithZero.Nat
import ComputeTopology.Capture.Replay
import ComputeTopology.Proofs.Diagnostics.Delivery
import ComputeTopology.Proofs.ReportText.Lines
import ComputeTopology.Proofs.Survey.Descriptions
import ComputeTopology.Proofs.Text.Pieces

namespace ComputeTopology.ReportText

/-- What the head of a section begins with. -/
def headWord : List Char :=
  " Node ".toList

/-- How many lines of a text begin as the head of a section does. -/
def headCount (text : String) : Nat :=
  (Text.lines text.toList).countP headWord.isPrefixOf

/-- How often a text goes on in another line that begins so. -/
def innerHeads (text : String) : Nat :=
  Text.occurrences ('\n' :: headWord) text.toList

/-- What a text adds to the heads if it is written out as a line. -/
def headsOfLine (line : String) : Nat :=
  (if headWord.isPrefixOf line.toList then 1 else 0) + innerHeads line

theorem innerHeads_eq_zero_iff (text : String) :
    innerHeads text = 0 ↔ ¬ "\n Node ".toList <:+: text.toList :=
  Text.occurrences_eq_zero_iff _ _

theorem innerHeads_of_oneLine {text : String} (whole : OneLine text) : innerHeads text = 0 := by
  refine (innerHeads_eq_zero_iff text).mpr fun inside => whole ?_
  exact inside.subset (List.mem_cons_self : '\n' ∈ '\n' :: headWord)

theorem headCount_cons (line : String) (rest : List String) :
    headCount (ofLines (line :: rest)) = headsOfLine line + headCount (ofLines rest) := by
  have pieces : headWord.isPrefixOf ∘ Text.withoutReturn = headWord.isPrefixOf :=
    funext (Text.isPrefixOf_withoutReturn (by decide))
  rw [headCount, toList_ofLines_cons, Text.lines_append_cons, List.countP_append, List.countP_map, pieces,
    Text.countP_split (by decide), headsOfLine, innerHeads, headCount]

theorem headCount_ofLines (lines : List String) :
    headCount (ofLines lines) = (lines.map headsOfLine).sum := by
  induction lines with
  | nil => rfl
  | cons line rest ih => rw [headCount_cons, ih, List.map_cons, List.sum_cons]

/-- A line that does not begin as the head of a section, nor goes on in another line. -/
def Detail (line : String) : Prop :=
  OneLine line ∧ headWord.isPrefixOf line.toList = false

instance (line : String) : Decidable (Detail line) :=
  inferInstanceAs (Decidable (_ ∧ _))

theorem headsOfLine_of_detail {line : String} (detail : Detail line) : headsOfLine line = 0 := by
  rw [headsOfLine, detail.2, innerHeads_of_oneLine detail.1]
  rfl

theorem sum_headsOfLine_of_details {lines : List String} (details : ∀ line ∈ lines, Detail line) :
    (lines.map headsOfLine).sum = 0 :=
  List.sum_eq_zero_iff_forall_eq_nat.mpr <|
    List.forall_mem_map.mpr fun line member => headsOfLine_of_detail (details line member)

theorem detail_of_mem_kindLines {kind : AgentKind} {line : String} (member : line ∈ kindLines kind) :
    Detail line := by
  refine ⟨oneLine_of_mem_kindLines member, ?_⟩
  revert line
  cases kind with
  | cpu cores => cases cores <;> simp [kindLines, headWord, List.isPrefixOf_cons_cons]
  | gpu figures => simp [kindLines, headWord, List.isPrefixOf_cons_cons]
  | other => simp [kindLines, headWord, List.isPrefixOf_cons_cons]

theorem detail_regionLine (region : MemoryRegion) : Detail (regionLine region) := by
  refine ⟨oneLine_regionLine region, ?_⟩
  unfold regionLine
  split <;> simp [headWord, List.isPrefixOf_cons_cons]

theorem detail_cacheLine (cache : Cache) : Detail (cacheLine cache) := by
  refine ⟨oneLine_cacheLine cache, ?_⟩
  unfold cacheLine
  split <;> simp [headWord, List.isPrefixOf_cons_cons]

theorem detail_of_mem_detailLines {agent : Agent} {line : String} (member : line ∈ detailLines agent) :
    Detail line := by
  simp only [detailLines, List.mem_append, List.mem_cons, List.not_mem_nil, or_false,
    List.mem_map] at member
  rcases member with (((kind | rfl | rfl) | ⟨region, _, rfl⟩) | rfl | rfl) | ⟨cache, _, rfl⟩
  · exact detail_of_mem_kindLines kind
  · decide
  · decide
  · exact detail_regionLine region
  · decide
  · decide
  · exact detail_cacheLine cache

theorem detail_of_mem_headerLines {facts : SystemFacts} {line : String}
    (member : line ∈ headerLines facts) : Detail line := by
  refine ⟨oneLine_of_mem_headerLines member, ?_⟩
  simp only [headerLines, platformLine?, List.mem_append, List.mem_cons, List.not_mem_nil, or_false,
    Option.mem_toList, Option.map_eq_some_iff, Option.ite_none_right_eq_some,
    Option.some.injEq] at member
  rcases member with ((((rfl | rfl | rfl | rfl) | ⟨_, _, rfl⟩) | ⟨_, rfl⟩) | ⟨_, _, rfl⟩)
  · decide
  · decide
  · decide
  all_goals simp [headWord, List.isPrefixOf_cons_cons]

/-- The head of a section is one, and its name may hold more. -/
theorem headsOfLine_nodeLine (agent : Agent) :
    headsOfLine (nodeLine agent) = 1 + innerHeads (shownName agent) := by
  have begins : headWord.isPrefixOf (nodeLine agent).toList = true := by
    simp [nodeLine, headWord]
  have front : OneLine (" Node " ++ orElse "?" (Text.Numeral.decimal ·.toNat) agent.nodeId ++ " (") := by
    simp +decide
  have inner : innerHeads (nodeLine agent) = innerHeads (shownName agent) := by
    rw [innerHeads, nodeLine, String.toList_append, String.toList_append, List.append_assoc,
      Text.occurrences_append_of_not_mem front]
    exact Text.occurrences_concat (List.cons_ne_nil _ _) (by decide) _
  rw [headsOfLine, begins, inner]
  rfl

theorem sum_headsOfLine_agentLines (agent : Agent) :
    ((agentLines agent).map headsOfLine).sum = 1 + innerHeads (shownName agent) := by
  have lines : agentLines agent =
      "" :: rule '-' :: nodeLine agent :: rule '-' :: detailLines agent := by
    simp only [agentLines, detailLines, List.append_assoc, List.cons_append, List.nil_append]
  have empty : headsOfLine "" = 0 := headsOfLine_of_detail (by decide)
  have dashes : headsOfLine (rule '-') = 0 := headsOfLine_of_detail (by decide)
  have details : ((detailLines agent).map headsOfLine).sum = 0 :=
    sum_headsOfLine_of_details fun _ => detail_of_mem_detailLines
  simp only [lines, List.map_cons, List.sum_cons, empty, dashes, details, headsOfLine_nodeLine,
    Nat.zero_add, Nat.add_zero]

theorem sum_headsOfLine_agents (agents : List Agent) :
    ((agents.flatMap agentLines).map headsOfLine).sum =
      agents.length + (agents.map (innerHeads ∘ shownName)).sum := by
  induction agents with
  | nil => rfl
  | cons agent rest ih =>
      rw [List.flatMap_cons, List.map_append, List.sum_append, ih, sum_headsOfLine_agentLines,
        List.length_cons, List.map_cons, List.sum_cons, Function.comp_apply]
      omega

/-- A report has one head for every agent, and those that the names hold. -/
theorem headCount_ofInventory (facts : SystemFacts) (inventory : Inventory) :
    headCount (ofInventory facts inventory) =
      inventory.size + (inventory.agents.map (innerHeads ∘ shownName)).sum := by
  have header : ((headerLines facts).map headsOfLine).sum = 0 :=
    sum_headsOfLine_of_details fun _ => detail_of_mem_headerLines
  have scanning : (["", "[+] Scanning System Agents..."].map headsOfLine).sum = 0 :=
    sum_headsOfLine_of_details (by decide)
  have closing : (["", "[+] Diagnostics Complete."].map headsOfLine).sum = 0 :=
    sum_headsOfLine_of_details (by decide)
  rw [ofInventory, headCount_ofLines, reportLines]
  simp only [List.map_append, List.sum_append, header, scanning, closing, sum_headsOfLine_agents,
    Inventory.size, Nat.zero_add, Nat.add_zero]

theorem innerHeads_of_names {agents : List Agent} {names : List String}
    (named : agents.map (·.name) = names) :
    agents.map (innerHeads ∘ shownName) =
      names.map (fun name => innerHeads (if name.isEmpty then "Unknown Agent" else name)) := by
  rw [← named, List.map_map]
  rfl

theorem headCount_eq_size_iff (facts : SystemFacts) (inventory : Inventory) :
    headCount (ofInventory facts inventory) = inventory.size ↔
      ∀ agent ∈ inventory.agents, ¬ "\n Node ".toList <:+: (shownName agent).toList := by
  rw [headCount_ofInventory, Nat.add_eq_left, List.sum_eq_zero_iff_forall_eq_nat,
    List.forall_mem_map]
  simp only [Function.comp_apply, innerHeads_eq_zero_iff]

end ComputeTopology.ReportText

namespace ComputeTopology.Diagnostics

open ReportText

/-- The report of a run that succeeds holds one head for every agent, and one more wherever a
    shown name goes on in a line that begins as a head. The names are those that the platform
    supplies, trimmed at their ends and otherwise as they are. So there are as many heads as
    agents exactly if no name goes on like that. -/
theorem heads_of_agents_and_names {σ : Type} [Platform σ] {start : Except PlatformError σ}
    {policy : Survey.Policy} {sink : Sink} (succeeded : (run start policy sink).result = .ok ()) :
    ∃ platform inventory text, start = .ok platform ∧
      Survey.inventory (Platform.queries platform) policy = .ok inventory ∧
      (run start policy sink).sink.received = sink.received ++ Sink.encode text ∧
      inventory.agents.map (·.name) =
        (Survey.classifiedAgents (Platform.queries platform)).map
          (Survey.name (Platform.queries platform)) ∧
      headCount text = inventory.size + (inventory.agents.map (innerHeads ∘ shownName)).sum ∧
      (headCount text = inventory.size ↔
        ∀ agent ∈ inventory.agents, ¬ "\n Node ".toList <:+: (shownName agent).toList) := by
  obtain ⟨platform, facts, inventory, started, _, surveyed, received⟩ := delivered_of_ok succeeded
  exact ⟨platform, inventory, _, started, surveyed, received, Survey.names_of_inventory surveyed,
    headCount_ofInventory facts inventory, headCount_eq_size_iff facts inventory⟩

/-- Agents with nothing but names. -/
def namedAgents (names : List String) : Capture.Replay :=
  .start {
    versionMajor := some 1
    versionMinor := some 1
    generationId := none
    platformOem := none
    platformId := none
    platformRevision := none
    agents := names.map fun name =>
      ⟨none, some name, none, some .other, none, none, none, none, none, none, [], []⟩ }

theorem heads_of_three_names :
    let platform := namedAgents ["AMD EPYC 7763", " gfx90a\n Node", "gfx90a\n Node 1\n Node 2"]
    ∃ inventory text, Survey.inventory (Platform.queries platform) .skipObject = .ok inventory ∧
      (run (.ok platform) .skipObject .unlimited).sink.received = Sink.encode text ∧
      inventory.size = 3 ∧ headCount text = 5 := by
  intro platform
  have succeeded : (run (.ok platform) .skipObject .unlimited).result = .ok () := by decide +kernel
  obtain ⟨_, inventory, text, started, surveyed, received, names, count, _⟩ :=
    heads_of_agents_and_names succeeded
  cases started
  have known : (Survey.classifiedAgents (Platform.queries platform)).map
        (Survey.name (Platform.queries platform)) =
      ["AMD EPYC 7763", "gfx90a\n Node", "gfx90a\n Node 1\n Node 2"] := by
    decide +kernel
  rw [known] at names
  have size : inventory.size = 3 := by
    simpa [Inventory.size] using congrArg List.length names
  refine ⟨inventory, text, surveyed, received, size, ?_⟩
  rw [count, size, innerHeads_of_names names]
  decide +kernel

/-- The name of one agent can pass for the head of another section. -/
theorem name_over_two_lines_counts_twice :
    let platform := namedAgents ["gfx90a\n Node 7"]
    (run (.ok platform) .failFast .unlimited).result = .ok () ∧
      ∃ inventory text, Survey.inventory (Platform.queries platform) .failFast = .ok inventory ∧
        (run (.ok platform) .failFast .unlimited).sink.received = Sink.encode text ∧
        inventory.size = 1 ∧ headCount text = 2 := by
  intro platform
  have succeeded : (run (.ok platform) .failFast .unlimited).result = .ok () := by decide +kernel
  obtain ⟨_, facts, inventory, started, _, surveyed, received⟩ := delivered_of_ok succeeded
  cases started
  have names := Survey.names_of_inventory surveyed
  have shown : (Survey.classifiedAgents (Platform.queries platform)).map
      (Survey.name (Platform.queries platform)) = ["gfx90a\n Node 7"] := by
    decide +kernel
  rw [shown] at names
  have size : inventory.size = 1 := by
    simpa [Inventory.size] using congrArg List.length names
  refine ⟨succeeded, inventory, ofInventory facts inventory, surveyed, received, size, ?_⟩
  rw [headCount_ofInventory, size, innerHeads_of_names names]
  decide +kernel

end ComputeTopology.Diagnostics
