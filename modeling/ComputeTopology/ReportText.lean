import ComputeTopology.Inventory.Basic

/-! # The text of a report

A report is a header with the facts about the system, a section for every agent
with its regions and caches, and a closing line. Unknown figures show as such.
Sizes are rounded down, to megabytes for regions that have a place among the
global ones and to kilobytes for the others and for caches.
-/

namespace ComputeTopology.ReportText

open Text.Numeral

def unknown : String := "Unknown"

/-- The text of a figure, or a placeholder. -/
def orElse {α : Type} (placeholder : String) (text : α → String) (figure : Option α) : String :=
  (figure.map text).getD placeholder

/-- Fill a text with blanks on its right. -/
def padRight (width : Nat) (text : String) : String :=
  text ++ String.ofList (List.replicate (width - text.length) ' ')

/-- Fill a text with blanks on both sides, the odd one on its right. -/
def centre (width : Nat) (text : String) : String :=
  let free := width - text.length
  String.ofList (List.replicate (free / 2) ' ') ++ text ++
    String.ofList (List.replicate (free - free / 2) ' ')

def ruleWidth : Nat := 60

def rule (c : Char) : String :=
  String.ofList (List.replicate ruleWidth c)

def regionLabel (region : MemoryRegion) : String :=
  match region.segment with
  | .global =>
      match region.hostAccessible with
      | some true => "System"
      | some false => "FrameBuffer (VRAM)"
      | none => "Global"
  | .group => "LDS (Group)"
  | .priv => "Scratch (Private)"
  | .readOnly => "Constant (ReadOnly)"
  | .unknown => unknown

/-- The size of a region in units of so many bytes. -/
def regionSize (bytesPerUnit : Nat) (unit : String) (region : MemoryRegion) : String :=
  orElse unknown (fun size => decimal (size.toNat / bytesPerUnit) ++ " " ++ unit) region.knownSize

def regionLine (region : MemoryRegion) : String :=
  let label := padRight 20 (regionLabel region)
  match region.globalIndex with
  | some index =>
      "      [" ++ decimal index.toNat ++ "] " ++ label ++ " Size: " ++
        regionSize (1024 * 1024) "MB" region
  | none => "          " ++ label ++ " Size: " ++ regionSize 1024 "KB" region

/-- The size of a cache. A reported zero and no report at all show differently. -/
def cacheSize (cache : Cache) : String :=
  if cache.reportedZero then unknown ++ " (Reported 0)"
  else orElse unknown (fun size => decimal (size.toNat / 1024) ++ " KB") cache.sizeBytes

def cacheLine (cache : Cache) : String :=
  let line := "      L" ++ orElse "?" (decimal ·.toNat) cache.level ++ " Size: " ++ cacheSize cache
  match cache.associativity with
  | some ways => line ++ ", Assoc: " ++ decimal ways.toNat
  | none => line

/-- The lines that tell what an agent is. -/
def kindLines : AgentKind → List String
  | .cpu cores =>
      "    Type:          CPU" ::
        (cores.map (fun count => "    Cores:         " ++ decimal count.toNat)).toList
  | .gpu figures =>
      ["    Type:          GPU",
       "    Compute Units: " ++ orElse unknown (decimal ·.toNat) figures.computeUnits,
       "    SIMDs:         " ++ orElse unknown (decimal ·.toNat) figures.totalSimds,
       "    Waves/SIMD:    " ++ orElse unknown (decimal ·.toNat) figures.wavesPerSimd,
       "    Chip ID:       " ++ orElse unknown (prefixedHex ·.toNat) figures.chipId,
       "    Location ID:   " ++ orElse unknown (prefixedHex ·.toNat) figures.locationId ++
         " (Domain: " ++ orElse "?" (decimal ·.toNat) figures.domain ++ ")"]
  | .other => ["    Type:          Other"]

/-- The name in the head of an agent's section. -/
def shownName (agent : Agent) : String :=
  if agent.name.isEmpty then "Unknown Agent" else agent.name

def nodeLine (agent : Agent) : String :=
  " Node " ++ orElse "?" (decimal ·.toNat) agent.nodeId ++ " (" ++ shownName agent ++ ")"

def agentLines (agent : Agent) : List String :=
  ["", rule '-', nodeLine agent, rule '-'] ++ kindLines agent.kind ++
    ["", "    Memory Banks:"] ++ agent.regions.map regionLine ++
    ["", "    Caches:"] ++ agent.caches.map cacheLine

/-- The platform's numbers, if any of them is known. -/
def platformLine? (facts : SystemFacts) : Option String :=
  if facts.platformOem.isSome || facts.platformId.isSome || facts.platformRevision.isSome then
    some ("[+] Platform:              OEM " ++ orElse "?" (prefixedHex ·.toNat) facts.platformOem ++
      ", ID " ++ orElse "?" (prefixedHex ·.toNat) facts.platformId ++
      ", Rev " ++ orElse "?" (prefixedHex ·.toNat) facts.platformRevision)
  else none

def headerLines (facts : SystemFacts) : List String :=
  [rule '=', centre ruleWidth "HSA Topology - Diagnostics", rule '=',
   "[+] HSA Interface Version: " ++ facts.version.text] ++
  (facts.generationId.map
    (fun generation => "[+] Topology Generation:   " ++ decimal generation.toNat)).toList ++
  (platformLine? facts).toList ++
  (facts.nodeCount.map (fun nodes => "[+] Topology Nodes:        " ++ decimal nodes.toNat)).toList

def reportLines (facts : SystemFacts) (inventory : Inventory) : List String :=
  headerLines facts ++ ["", "[+] Scanning System Agents..."] ++
    inventory.agents.flatMap agentLines ++ ["", "[+] Diagnostics Complete."]

/-- Lines one after another, each with its line feed. -/
def ofLines (lines : List String) : String :=
  String.join (lines.map (· ++ "\n"))

def ofAgent (agent : Agent) : String :=
  ofLines (agentLines agent)

def ofInventory (facts : SystemFacts) (inventory : Inventory) : String :=
  ofLines (reportLines facts inventory)

end ComputeTopology.ReportText
