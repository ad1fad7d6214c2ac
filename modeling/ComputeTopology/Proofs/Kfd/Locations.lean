import ComputeTopology.Kfd.Locations
import ComputeTopology.Proofs.FileTree.Paths
import ComputeTopology.Proofs.Text.Hexadecimal

namespace ComputeTopology

namespace Kfd

open Text.Numeral

/-- Where a device is on the PCI buses of a machine. -/
structure PciPlace where
  domain : UInt32
  bus : Fin 256
  device : Fin 32
  function : Fin 8
deriving DecidableEq

namespace PciPlace

variable {place other : PciPlace}

/-- The location of a device within its domain. -/
def location (place : PciPlace) : UInt32 :=
  .ofNat (place.bus * 256 + place.device * 8 + place.function)

/-- The name that a device goes by. -/
def address (place : PciPlace) : String :=
  paddedHex 4 place.domain.toNat ++ ":" ++ paddedHex 2 place.bus ++ ":" ++ paddedHex 2 place.device ++
    "." ++ hex place.function

/-- The place that a location stands for. Its upper half is not looked at. -/
def ofLocation (domain location : UInt32) : PciPlace where
  domain
  bus := ⟨location.toNat / 256 % 256, Nat.mod_lt _ (by decide)⟩
  device := ⟨location.toNat / 8 % 32, Nat.mod_lt _ (by decide)⟩
  function := ⟨location.toNat % 8, Nat.mod_lt _ (by decide)⟩

theorem toNat_location (place : PciPlace) :
    place.location.toNat = place.bus * 256 + place.device * 8 + place.function := by
  obtain ⟨_, bus, device, function⟩ := place
  rw [location, UInt32.toNat_ofNat']
  omega

/-- A place comes back from its location. -/
theorem ofLocation_location (place : PciPlace) :
    ofLocation place.domain place.location = place := by
  have whole := toNat_location place
  obtain ⟨domain, bus, device, function⟩ := place
  simp only [ofLocation, whole, PciPlace.mk.injEq, Fin.ext_iff, true_and]
  omega

theorem toNat_lowHalf (location : UInt32) : (location &&& 0xffff).toNat = location.toNat % 65536 := by
  rw [UInt32.toNat_and]
  exact Nat.and_two_pow_sub_one_eq_mod _ 16

/-- Of a location its lower half comes back from the place. -/
theorem location_ofLocation (domain location : UInt32) :
    (ofLocation domain location).location = location &&& 0xffff := by
  rw [← UInt32.toNat_inj, toNat_location, toNat_lowHalf]
  simp only [ofLocation]
  omega

theorem ofLocation_eq_iff {domain other location beside : UInt32} :
    ofLocation domain location = ofLocation other beside ↔
      domain = other ∧ location &&& 0xffff = beside &&& 0xffff := by
  constructor
  · intro same
    have lower := congrArg PciPlace.location same
    rw [location_ofLocation, location_ofLocation] at lower
    exact ⟨congrArg PciPlace.domain same, lower⟩
  · intro ⟨sameDomain, lower⟩
    have halves := congrArg UInt32.toNat lower
    rw [toNat_lowHalf, toNat_lowHalf] at halves
    simp only [ofLocation, sameDomain, PciPlace.mk.injEq, Fin.mk.injEq, true_and]
    omega

theorem toList_address (place : PciPlace) :
    place.address.toList = (paddedHex 4 place.domain.toNat).toList ++ ':' ::
      ((paddedHex 2 place.bus).toList ++ ':' ::
        ((paddedHex 2 place.device).toList ++ '.' :: (hex place.function).toList)) := by
  simp [address]

theorem address_injective (same : place.address = other.address) : place = other := by
  have colon (width value : Nat) : ':' ∉ (paddedHex width value).toList :=
    not_mem_paddedHex (by decide) width value
  have point (width value : Nat) : '.' ∉ (paddedHex width value).toList :=
    not_mem_paddedHex (by decide) width value
  have chars := congrArg String.toList same
  rw [toList_address, toList_address] at chars
  obtain ⟨domains, afterDomain⟩ := append_cons_inj (colon _ _) (colon _ _) chars
  obtain ⟨buses, afterBus⟩ := append_cons_inj (colon _ _) (colon _ _) afterDomain
  obtain ⟨devices, functions⟩ := append_cons_inj (point _ _) (point _ _) afterBus
  have sameDomain := paddedHex_injective (String.toList_injective domains)
  have sameBus := paddedHex_injective (String.toList_injective buses)
  have sameDevice := paddedHex_injective (String.toList_injective devices)
  have sameFunction := hex_injective (String.toList_injective functions)
  cases place
  cases other
  simp only [UInt32.toNat_inj, Fin.val_inj] at sameDomain sameBus sameDevice sameFunction
  simp only [sameDomain, sameBus, sameDevice, sameFunction]

end PciPlace

namespace Locations

theorem pciAddress_eq (domain location : UInt32) :
    pciAddress domain location = (PciPlace.ofLocation domain location).address := rfl

theorem plain_pciAddress (domain location : UInt32) :
    Path.Plain (pciAddress domain location) ∧ ':' ∈ (pciAddress domain location).toList := by
  have colon : ':' ∈ (pciAddress domain location).toList := by simp [pciAddress]
  have other {name : String} (without : ':' ∉ name.toList) : pciAddress domain location ≠ name :=
    fun same => without (same ▸ colon)
  have slash (width value : Nat) : '/' ∉ (paddedHex width value).toList :=
    not_mem_paddedHex (by decide) width value
  refine ⟨⟨other (by decide), other (by decide), other (by decide), ?_⟩, colon⟩
  simp [pciAddress, hex_eq_paddedHex, slash]

theorem place_pciRevision (locations : Locations) (domain location : UInt32) :
    Path.place (locations.pciRevision domain location) =
      Path.place locations.pciDevices ++ [pciAddress domain location, "revision"] := by
  rw [pciRevision, Path.place_join (by decide), Path.place_join (plain_pciAddress _ _).1,
    List.append_assoc]
  rfl

theorem place_pciRevision_eq_iff {locations : Locations} {domain other location beside : UInt32} :
    Path.place (locations.pciRevision domain location) =
        Path.place (locations.pciRevision other beside) ↔
      domain = other ∧ location &&& 0xffff = beside &&& 0xffff := by
  rw [place_pciRevision, place_pciRevision, List.append_cancel_left_eq, List.cons.injEq,
    pciAddress_eq, pciAddress_eq, ← PciPlace.ofLocation_eq_iff]
  constructor
  · intro ⟨same, _⟩
    exact PciPlace.address_injective same
  · intro same
    exact ⟨congrArg PciPlace.address same, rfl⟩

/-- Two locations have the same file with a revision exactly if the domains are the same and
    the lower halves of the locations are, and this holds for the places where the paths end as
    well as for the paths. A device's location leads to the file that is named by its domain,
    bus, device and function, so two devices never share one. -/
theorem revision_files_told_apart (locations : Locations) :
    (∀ domain other location beside : UInt32,
        (locations.pciRevision domain location = locations.pciRevision other beside ↔
          domain = other ∧ location &&& 0xffff = beside &&& 0xffff) ∧
        (Path.place (locations.pciRevision domain location) =
            Path.place (locations.pciRevision other beside) ↔
          domain = other ∧ location &&& 0xffff = beside &&& 0xffff)) ∧
      (∀ place : PciPlace, locations.pciRevision place.domain place.location =
        Path.join (Path.join locations.pciDevices place.address) "revision") ∧
      ∀ place other : PciPlace,
        Path.place (locations.pciRevision place.domain place.location) =
            Path.place (locations.pciRevision other.domain other.location) ↔
          place = other := by
  refine ⟨fun domain other location beside => ⟨?_, place_pciRevision_eq_iff⟩, fun place => ?_,
    fun place other => ?_⟩
  · constructor
    · intro same
      exact place_pciRevision_eq_iff.mp (congrArg Path.place same)
    · intro same
      rw [pciRevision, pciAddress_eq, PciPlace.ofLocation_eq_iff.mpr same]
      rfl
  · rw [pciRevision, pciAddress_eq, PciPlace.ofLocation_location]
  · rw [place_pciRevision_eq_iff, ← PciPlace.ofLocation_eq_iff, PciPlace.ofLocation_location,
      PciPlace.ofLocation_location]

/-- A domain that is wider than four digits, and a location with a bit in its upper half. -/
example : pciAddress 0x12345 0xf004111 = "12345:41:02.1" := by decide

end Locations

end Kfd

end ComputeTopology
