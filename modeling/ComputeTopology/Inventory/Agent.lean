import ComputeTopology.Inventory.Memory
import ComputeTopology.Text.Blank

/-! # Agents

One agent is one unit that can compute. Its kind carries the figures that only
that class of device has, so the figures of a GPU exist exactly when the agent
is one.
-/

namespace ComputeTopology

/-- The compute figures and identifiers of a GPU. -/
structure GpuFigures where
  computeUnits : Option UInt32
  totalSimds : Option UInt64
  wavesPerSimd : Option UInt32
  chipId : Option UInt32
  /-- Bus, device and function of the slot, packed as the platform reports them. -/
  locationId : Option UInt32
  domain : Option UInt32
deriving DecidableEq

namespace GpuFigures

/-- All SIMDs of a device. The product of two 32-bit figures fits 64 bits. -/
def totalSimds? : Option UInt32 → Option UInt32 → Option UInt64
  | some units, some simds => some (units.toUInt64 * simds.toUInt64)
  | _, _ => none

/-- The waves of one SIMD, zero if a compute unit has none. -/
def wavesPerSimd? : Option UInt32 → Option UInt32 → Option UInt32
  | some simds, waves => if simds = 0 then some 0 else waves.map (· / simds)
  | none, _ => none

/-- The product of two 32-bit numbers fits 64 bits. -/
theorem toNat_totalSimds? (units simds : Option UInt32) :
    (totalSimds? units simds).map UInt64.toNat =
      (units.map UInt32.toNat).bind (fun units => (simds.map UInt32.toNat).map (units * ·)) := by
  cases units with
  | none => rfl
  | some units =>
    cases simds with
    | none => rfl
    | some simds =>
      have fits : units.toNat * simds.toNat < 2 ^ 64 :=
        calc units.toNat * simds.toNat < 2 ^ 32 * 2 ^ 32 :=
              Nat.mul_lt_mul_of_lt_of_lt units.toNat_lt simds.toNat_lt
          _ = 2 ^ 64 := rfl
      simp only [totalSimds?, Option.map_some, Option.bind_some, UInt64.toNat_mul,
        UInt32.toNat_toUInt64, Nat.mod_eq_of_lt fits]

theorem toNat_wavesPerSimd? (simds waves : Option UInt32) :
    (wavesPerSimd? simds waves).map UInt32.toNat =
      (simds.map UInt32.toNat).bind
        (fun simds => if simds = 0 then some 0 else (waves.map UInt32.toNat).map (· / simds)) := by
  cases simds with
  | none => cases waves <;> rfl
  | some simds =>
      by_cases idle : simds = 0
      · simp [wavesPerSimd?, idle]
      · have counts : simds.toNat ≠ 0 := fun zero => idle (UInt32.toNat_inj.mp zero)
        cases waves with
        | none => simp [wavesPerSimd?, idle, counts]
        | some waves =>
            simp only [wavesPerSimd?, if_neg idle, Option.map_some, Option.bind_some, if_neg counts,
              UInt32.toNat_div]

/-- The figures that follow from what the platform reports per compute unit. -/
def derive (computeUnits simdsPerUnit maxWavesPerUnit chipId locationId domain : Option UInt32) :
    GpuFigures where
  computeUnits
  totalSimds := totalSimds? computeUnits simdsPerUnit
  wavesPerSimd := wavesPerSimd? simdsPerUnit maxWavesPerUnit
  chipId
  locationId
  domain

end GpuFigures

inductive AgentKind where
  | cpu (cores : Option UInt32)
  | gpu (figures : GpuFigures)
  | other
deriving DecidableEq

def AgentKind.deviceClass : AgentKind → DeviceClass
  | .cpu _ => .cpu
  | .gpu _ => .gpu
  | .other => .other

structure Agent where
  nodeId : Option UInt32
  /-- The name to show, empty if the platform supplied none. -/
  name : String
  kind : AgentKind
  /-- Regions in the platform's order. -/
  regions : List MemoryRegion
  /-- Caches in the platform's order. -/
  caches : List Cache
deriving DecidableEq

namespace Agent

def deviceClass (agent : Agent) : DeviceClass :=
  agent.kind.deviceClass

def gpu? (agent : Agent) : Option GpuFigures :=
  match agent.kind with
  | .gpu figures => some figures
  | _ => none

/-- The regions that carry a place among the global ones. -/
def globalRegions (agent : Agent) : List MemoryRegion :=
  agent.regions.filter (·.globalIndex.isSome)

/-- The name to show: the product's if it is not blank, else the generic one,
    without blanks at its ends. -/
def displayName (product generic : Option String) : String :=
  let chosen := (product.filter (fun name => !Text.allBlank name.toList)).or generic
  (chosen.map (fun name => String.ofList (Text.trim name.toList))).getD ""

end Agent

end ComputeTopology
