import ComputeTopology.Text.Numeral

/-! # Handles

A handle names an agent, a region or a cache of one platform. Only the platform
that issued it can tell what its bits mean, so the kind of object is part of
the type and the bits are all there is inside.
-/

namespace ComputeTopology

inductive ObjectKind where
  | agent
  | region
  | cache
deriving DecidableEq

def ObjectKind.name : ObjectKind → String
  | .agent => "agent"
  | .region => "region"
  | .cache => "cache"

structure Handle (kind : ObjectKind) where
  bits : UInt64
deriving DecidableEq

abbrev AgentHandle := Handle .agent

abbrev RegionHandle := Handle .region

abbrev CacheHandle := Handle .cache

namespace Handle

/-- The kind of object and the bits, as messages name an object. -/
def label {kind : ObjectKind} (handle : Handle kind) : String :=
  kind.name ++ " " ++ Text.Numeral.prefixedHex handle.bits.toNat

/-- The handle of an agent is its place in the platform's list. -/
def ofPlace (place : Nat) : AgentHandle :=
  ⟨UInt64.ofNat place⟩

/-- The handle of an agent's object: the agent's place in the upper 32 bits and
    the object's place among its kind in the lower 32. -/
def ofPlaces {kind : ObjectKind} (agent place : Nat) : Handle kind :=
  ⟨UInt64.ofNat (agent * UInt32.size + place % UInt32.size)⟩

def agentPlace {kind : ObjectKind} (handle : Handle kind) : Nat :=
  handle.bits.toNat / UInt32.size

/-- The place of an object among its agent's objects of that kind. -/
def objectPlace {kind : ObjectKind} (handle : Handle kind) : Nat :=
  handle.bits.toNat % UInt32.size

theorem toNat_ofPlace {place : Nat} (few : place < UInt64.size) : (ofPlace place).bits.toNat = place :=
  UInt64.toNat_ofNat_of_lt few

theorem ofPlace_bits {place : Nat} (few : place < UInt32.size) : (ofPlace place).bits.toNat = place :=
  toNat_ofPlace (Nat.lt_trans few (by decide))

theorem ofPlaces_bits {kind : ObjectKind} {agent place : Nat} (few : agent < UInt32.size) :
    (ofPlaces agent place : Handle kind).bits.toNat = agent * UInt32.size + place % UInt32.size := by
  simp only [ofPlaces, UInt64.toNat_ofNat']
  unfold UInt32.size at few ⊢
  omega

theorem agentPlace_ofPlaces {kind : ObjectKind} {agent place : Nat} (few : agent < UInt32.size) :
    (ofPlaces agent place : Handle kind).agentPlace = agent := by
  rw [agentPlace, ofPlaces_bits few]
  unfold UInt32.size
  omega

theorem objectPlace_ofPlaces {kind : ObjectKind} {agent place : Nat} (few : agent < UInt32.size) :
    (ofPlaces agent place : Handle kind).objectPlace = place % UInt32.size := by
  rw [objectPlace, ofPlaces_bits few]
  unfold UInt32.size
  omega

theorem ofPlaces_mod {kind : ObjectKind} (agent place : Nat) :
    (ofPlaces agent (place % UInt32.size) : Handle kind) = ofPlaces agent place := by
  rw [ofPlaces, Nat.mod_mod]
  rfl

end Handle

end ComputeTopology
