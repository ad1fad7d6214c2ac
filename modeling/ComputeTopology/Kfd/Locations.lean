import ComputeTopology.FileTree.Path
import ComputeTopology.Kfd.Overrides

/-! # Locations

Where the topology of the kernel driver, the PCI devices, the description of the
processors and the tables of product names are found.
-/

namespace ComputeTopology.Kfd

structure Locations where
  topologyRoot : String
  pciDevices : String
  cpuInfo : String
  /-- Tables of product names, searched in order. -/
  productTables : List String
  overrides : Overrides
deriving DecidableEq

namespace Locations

/-- The usual places on a machine, with the overrides of an environment. -/
def ofEnvironment (environment : List (String × String)) : Locations where
  topologyRoot := "/sys/devices/virtual/kfd/kfd/topology"
  pciDevices := "/sys/bus/pci/devices"
  cpuInfo := "/proc/cpuinfo"
  productTables := ["/usr/share/libdrm/amdgpu.ids", "/usr/local/share/libdrm/amdgpu.ids"]
  overrides := .ofVariables environment

def nodes (locations : Locations) : String :=
  Path.join locations.topologyRoot "nodes"

def systemProperties (locations : Locations) : String :=
  Path.join locations.topologyRoot "system_properties"

def generationId (locations : Locations) : String :=
  Path.join locations.topologyRoot "generation_id"

/-- The name of a PCI device. A location holds the bus in eight bits, the device
    in five and the function in three. -/
def pciAddress (domain location : UInt32) : String :=
  let bus := location.toNat / 256 % 256
  let device := location.toNat / 8 % 32
  let function := location.toNat % 8
  Text.Numeral.paddedHex 4 domain.toNat ++ ":" ++ Text.Numeral.paddedHex 2 bus ++ ":" ++
    Text.Numeral.paddedHex 2 device ++ "." ++ Text.Numeral.hex function

/-- The file with the revision of a PCI device. -/
def pciRevision (locations : Locations) (domain location : UInt32) : String :=
  Path.join (Path.join locations.pciDevices (pciAddress domain location)) "revision"

end Locations

end ComputeTopology.Kfd
