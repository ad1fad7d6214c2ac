import ComputeTopology.Capture.Replay
import ComputeTopology.Platform.Table
import ComputeTopology.Proofs.Diagnostics.Delivery
import ComputeTopology.Proofs.ReportText.Structure
import ComputeTopology.Proofs.Survey.Descriptions

namespace ComputeTopology

namespace ReportText

open Text.Numeral

/-- How many bytes the unit has in which the size of a region of this segment is shown. -/
def unitBytes (segment : Segment) : Nat :=
  if segment = .global then 1024 * 1024 else 1024

def unitName (segment : Segment) : String :=
  if segment = .global then "MB" else "KB"

/-- A line ends with this as the size. -/
def Shows (line size : String) : Prop :=
  ∃ front, line = front ++ " Size: " ++ size

/-- A line shows a size as far as its unit goes. -/
structure ShowsSize (segment : Segment) (size : Option UInt64) (line : String) : Prop where
  unknown : Shows line unknown ↔ ∀ bytes, size = some bytes → bytes = 0
  figure : ∀ figure, Shows line (decimal figure ++ " " ++ unitName segment) ↔
    ∃ bytes, size = some bytes ∧ bytes ≠ 0 ∧ figure = bytes.toNat / unitBytes segment
  zero : Shows line (decimal 0 ++ " " ++ unitName segment) ↔
    ∃ bytes, size = some bytes ∧ bytes ≠ 0 ∧ bytes.toNat < unitBytes segment
  positive : (∃ figure, 0 < figure ∧ Shows line (decimal figure ++ " " ++ unitName segment)) ↔
    ∃ bytes, size = some bytes ∧ unitBytes segment ≤ bytes.toNat

variable {region : MemoryRegion} {size : String}

theorem shows_regionLine (placed : region.globalIndex.isSome = region.isGlobal) :
    Shows (regionLine region) (regionSize (unitBytes region.segment) (unitName region.segment) region) := by
  unfold regionLine
  cases place : region.globalIndex with
  | some index =>
      have isGlobal : region.segment = .global := by simpa [place, MemoryRegion.isGlobal] using placed
      exact ⟨"      [" ++ decimal index.toNat ++ "] " ++ padRight 20 (regionLabel region), by
        simp only [unitBytes, unitName, isGlobal, if_true]⟩
  | none =>
      have other : region.segment ≠ .global := by simpa [place, MemoryRegion.isGlobal] using placed
      exact ⟨"          " ++ padRight 20 (regionLabel region), by
        simp only [unitBytes, unitName, other, if_false]⟩

theorem colon_not_mem_figure (figure : Nat) (segment : Segment) :
    ':' ∉ (decimal figure ++ " " ++ unitName segment).toList := by
  have digits : ':' ∉ (decimal figure).toList := not_mem_decimal (by decide) figure
  have unit : ':' ∉ (unitName segment).toList := by cases segment <;> decide
  simp [digits, unit]

theorem colon_not_mem_regionSize (region : MemoryRegion) :
    ':' ∉ (regionSize (unitBytes region.segment) (unitName region.segment) region).toList := by
  unfold regionSize
  cases region.knownSize with
  | none => exact (by decide : ':' ∉ unknown.toList)
  | some bytes => exact colon_not_mem_figure _ _

/-- A line ends with one size only. -/
theorem shows_iff (placed : region.globalIndex.isSome = region.isGlobal) (plain : ':' ∉ size.toList) :
    Shows (regionLine region) size ↔
      size = regionSize (unitBytes region.segment) (unitName region.segment) region := by
  have shown := shows_regionLine placed
  constructor
  · rintro ⟨front, line⟩
    obtain ⟨before, same⟩ := shown
    have cut (front size : String) :
        (front ++ " Size: " ++ size).toList = (front ++ " Size").toList ++ ':' :: ' ' :: size.toList := by
      simp
    have chars := congrArg String.toList (line.symm.trans same)
    rw [cut, cut] at chars
    have sizes := (append_cons_inj_last (by simpa using plain)
      (by simpa using colon_not_mem_regionSize region) chars).2
    exact String.toList_injective (List.cons.inj sizes).2
  · rintro rfl
    exact shown

theorem figure_injective {figure other : Nat} {unit : String}
    (same : decimal figure ++ " " ++ unit = decimal other ++ " " ++ unit) : figure = other := by
  have chars := congrArg String.toList same
  simp only [String.append_assoc, String.toList_append] at chars
  exact decimal_injective (String.toList_injective (List.append_cancel_right chars))

theorem unknown_ne_figure (figure : Nat) (unit : String) : unknown ≠ decimal figure ++ " " ++ unit := by
  intro same
  have blank : ' ' ∈ unknown.toList := by simp [same]
  exact absurd blank (by decide)

theorem knownSize_eq_some_iff {bytes : UInt64} :
    region.knownSize = some bytes ↔ region.sizeBytes = some bytes ∧ bytes ≠ 0 := by
  simp [MemoryRegion.knownSize, Option.filter_eq_some_iff]

theorem knownSize_eq_none_iff :
    region.knownSize = none ↔ ∀ bytes, region.sizeBytes = some bytes → bytes = 0 := by
  simp [MemoryRegion.knownSize, Option.filter_eq_none_iff]

theorem shows_unknown_iff (placed : region.globalIndex.isSome = region.isGlobal) :
    Shows (regionLine region) unknown ↔ ∀ bytes, region.sizeBytes = some bytes → bytes = 0 := by
  rw [shows_iff placed (by decide), ← knownSize_eq_none_iff]
  unfold regionSize orElse
  cases region.knownSize with
  | none => simp
  | some bytes => simpa using unknown_ne_figure _ _

theorem shows_figure_iff (placed : region.globalIndex.isSome = region.isGlobal) (figure : Nat) :
    Shows (regionLine region) (decimal figure ++ " " ++ unitName region.segment) ↔
      ∃ bytes, region.sizeBytes = some bytes ∧ bytes ≠ 0 ∧
        figure = bytes.toNat / unitBytes region.segment := by
  simp only [shows_iff placed (colon_not_mem_figure _ _), ← and_assoc, ← knownSize_eq_some_iff]
  unfold regionSize orElse
  cases region.knownSize with
  | none => simpa using (unknown_ne_figure _ _).symm
  | some bytes =>
      simp only [Option.map_some, Option.getD_some, Option.some.injEq, exists_eq_left']
      exact ⟨figure_injective, fun same => by rw [same]⟩

theorem showsSize_regionLine (placed : region.globalIndex.isSome = region.isGlobal) :
    ShowsSize region.segment region.sizeBytes (regionLine region) := by
  have positive : 0 < unitBytes region.segment := by
    unfold unitBytes
    split <;> decide
  refine ⟨shows_unknown_iff placed, shows_figure_iff placed, ?_, ?_⟩
  · rw [shows_figure_iff placed]
    simp only [eq_comm (a := 0), Nat.div_eq_zero_iff_lt positive]
  · simp only [shows_figure_iff placed]
    constructor
    · rintro ⟨figure, counts, bytes, known, _, rfl⟩
      exact ⟨bytes, known, (Nat.div_pos_iff.mp counts).2⟩
    · rintro ⟨bytes, known, large⟩
      have nonzero : bytes ≠ 0 := by
        rintro rfl
        exact absurd (Nat.lt_of_lt_of_le positive large) (by decide)
      exact ⟨_, Nat.div_pos large positive, bytes, known, nonzero, rfl⟩

end ReportText

namespace Diagnostics

open ReportText Text.Numeral

/-- A run that succeeds writes a report in which the line of every memory bank shows the size
    that the platform answers with, in whole units of its segment. So it shows a zero for a size
    that is known and smaller than the unit, and for no other. -/
theorem bank_lines_show_whole_units {σ : Type} [Platform σ] {start : Except PlatformError σ}
    {policy : Survey.Policy} {sink : Sink} (succeeded : (run start policy sink).result = .ok ()) :
    ∃ platform facts inventory sections text, start = .ok platform ∧
      Survey.systemFacts (Platform.queries platform) = .ok facts ∧
      Survey.inventory (Platform.queries platform) policy = .ok inventory ∧
      sections = inventory.agents.map SectionLines.ofAgent ∧
      (run start policy sink).sink.received = sink.received ++ Sink.encode text ∧
      Prints text (headerLines facts) sections ∧
      List.Forall₂
        (fun handle part => List.Forall₂
          (fun region line => ∃ segment,
            (Platform.queries platform).regionAs Segment region .segment = .ok segment ∧
              ShowsSize segment ((Platform.queries platform).regionAs UInt64 region .size).toOption line)
          (Survey.classifiedRegions (Platform.queries platform) handle) part.banks)
        (Survey.classifiedAgents (Platform.queries platform)) sections := by
  obtain ⟨platform, facts, inventory, started, known, surveyed, received⟩ :=
    delivered_of_ok succeeded
  refine ⟨platform, facts, inventory, _, _, started, known, surveyed, rfl, received,
    prints_ofInventory facts inventory, ?_⟩
  rw [List.forall₂_map_right_iff]
  refine (Survey.described_of_inventory surveyed).imp fun handle agent describes => ?_
  refine List.forall₂_map_right_iff.mpr (describes.regions.imp fun region described describesRegion => ?_)
  refine ⟨described.segment, describesRegion.segment, ?_⟩
  rw [← describesRegion.sizeBytes]
  exact showsSize_regionLine describesRegion.globalIndex

/-- A GPU with banks of sizes around their units. -/
def gradedBanks : PlatformTable where
  system := [(.versionMajor, .ok (.u16 1)), (.versionMinor, .ok (.u16 1))]
  agents := .ok [⟨7⟩]
  agentTables := [
    (⟨7⟩, { answers := [(.device, .ok (.device .gpu))]
            regions := .ok [⟨1⟩, ⟨2⟩, ⟨3⟩, ⟨4⟩]
            caches := .ok [] })]
  regionTables := [
    (⟨1⟩, [(.segment, .ok (.segment .global)), (.size, .ok (.u64 1048575))]),
    (⟨2⟩, [(.segment, .ok (.segment .group)), (.size, .ok (.u32 65536))]),
    (⟨3⟩, [(.segment, .ok (.segment .global)), (.size, .ok (.u64 0))]),
    (⟨4⟩, [(.segment, .ok (.segment .priv)), (.size, .ok (.text "1024"))])]
  cacheTables := []
  shutDown := .ok ()

theorem sizes_of_gradedBanks :
    ∃ header text part, (run (.ok gradedBanks) .failFast .unlimited).sink.received = Sink.encode text ∧
      Prints text header [part] ∧
      List.Forall₂ Shows part.banks ["0 MB", "64 KB", "Unknown", "Unknown"] := by
  have succeeded : (run (.ok gradedBanks) .failFast .unlimited).result = .ok () := by decide +kernel
  obtain ⟨_, facts, _, sections, text, started, _, _, _, received, prints, lines⟩ :=
    bank_lines_show_whole_units succeeded
  cases started
  have classified : Survey.classifiedAgents gradedBanks.queries = [⟨7⟩] := by decide +kernel
  have listed : Survey.classifiedRegions gradedBanks.queries ⟨7⟩ = [⟨1⟩, ⟨2⟩, ⟨3⟩, ⟨4⟩] := by
    decide +kernel
  change List.Forall₂ _ (Survey.classifiedAgents gradedBanks.queries) _ at lines
  rw [classified] at lines
  obtain ⟨part, rfl, banks⟩ := forall₂_singleton_iff.mp lines
  refine ⟨headerLines facts, text, part, received, prints, ?_⟩
  change List.Forall₂ _ (Survey.classifiedRegions gradedBanks.queries ⟨7⟩) _ at banks
  rw [listed] at banks
  have shown {region : RegionHandle} {segment : Segment} {line : String}
      (asked : gradedBanks.queries.regionAs Segment region .segment = .ok segment)
      (found : ∃ segment, gradedBanks.queries.regionAs Segment region .segment = .ok segment ∧
        ShowsSize segment (gradedBanks.queries.regionAs UInt64 region .size).toOption line) :
      ShowsSize segment (gradedBanks.queries.regionAs UInt64 region .size).toOption line := by
    obtain ⟨other, same, shows⟩ := found
    cases asked.symm.trans same
    exact shows
  rw [(by decide +kernel : "0 MB" = decimal 0 ++ " " ++ unitName .global),
    (by decide +kernel : "64 KB" = decimal 64 ++ " " ++ unitName .group)]
  generalize part.banks = written at banks ⊢
  obtain _ | ⟨first, _ | ⟨second, _ | ⟨third, _ | ⟨fourth, none⟩⟩⟩⟩ := banks
  cases none
  refine .cons ?_ (.cons ?_ (.cons ?_ (.cons ?_ .nil)))
  · exact (shown rfl first).zero.mpr ⟨1048575, rfl, by decide, by decide⟩
  · exact ((shown rfl second).figure 64).mpr ⟨65536, rfl, by decide, by decide⟩
  · exact (shown rfl third).unknown.mpr fun bytes known => (Option.some.inj known).symm
  · exact (shown rfl fourth).unknown.mpr fun bytes known => nomatch known

/-- A GPU with a bank of less than a kilobyte. -/
def smallBank : Capture.Replay :=
  .start {
    versionMajor := some 1
    versionMinor := some 1
    generationId := none
    platformOem := none
    platformId := none
    platformRevision := none
    agents := [
      ⟨none, none, none, some .gpu, none, none, none, none, none, none,
        [⟨some .group, some 512, none⟩], []⟩] }

/-- A size that is known shows as a zero. -/
theorem smallBank_shows_zero :
    (run (.ok smallBank) .failFast .unlimited).result = .ok () ∧
      ∃ agent region header text part,
        Survey.classifiedAgents (Platform.queries smallBank) = [agent] ∧
        Survey.classifiedRegions (Platform.queries smallBank) agent = [region] ∧
        (Platform.queries smallBank).regionAs UInt64 region .size = .ok 512 ∧
        (run (.ok smallBank) .failFast .unlimited).sink.received = Sink.encode text ∧
        Prints text header [part] ∧
        part.banks = ["          LDS (Group)          Size: 0 KB"] := by
  have succeeded : (run (.ok smallBank) .failFast .unlimited).result = .ok () := by decide +kernel
  obtain ⟨_, facts, inventory, started, _, surveyed, received⟩ := delivered_of_ok succeeded
  cases started
  have described : Survey.inventory (Platform.queries smallBank) .failFast = .ok
      ⟨[⟨none, "", .gpu ⟨none, none, none, none, none, none⟩, [⟨.group, some 512, none, none⟩], []⟩]⟩ := by
    decide +kernel
  obtain rfl := Except.ok.inj (surveyed.symm.trans described)
  exact ⟨succeeded, .ofPlace 0, .ofPlaces 0 0, headerLines facts, _, _, by decide +kernel,
    by decide +kernel, by decide +kernel, received, prints_ofInventory facts _, by decide +kernel⟩

end Diagnostics

end ComputeTopology
