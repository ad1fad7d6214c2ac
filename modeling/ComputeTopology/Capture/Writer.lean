import ComputeTopology.Capture.Basic
import ComputeTopology.Json.Text

/-! # Writing captures

Every record is written as an object with all of its fields in order. A fact
that is not known is written as null.
-/

namespace ComputeTopology.Capture

open Json

def writeWord {α : Type} [Word α] (value : Option α) : List Char :=
  ofOption (fun word => ofNat (Word.toNat word)) value

def writeRegion (region : Region) : List Char :=
  ofMembers [
    ("segment", ofOption (fun segment => ofString segment.name) region.segment),
    ("size", writeWord region.size),
    ("host_accessible", ofOption ofBool region.hostAccessible)]

def writeCache (cache : Cache) : List Char :=
  ofMembers [
    ("level", writeWord cache.level),
    ("size", writeWord cache.size),
    ("associativity", writeWord cache.associativity)]

def writeAgent (agent : Agent) : List Char :=
  ofMembers [
    ("node_id", writeWord agent.nodeId),
    ("name", ofOption ofString agent.name),
    ("product_name", ofOption ofString agent.productName),
    ("device", ofOption (fun device => ofString device.name) agent.device),
    ("compute_units", writeWord agent.computeUnits),
    ("simds_per_cu", writeWord agent.simdsPerUnit),
    ("max_waves_per_cu", writeWord agent.maxWavesPerUnit),
    ("chip_id", writeWord agent.chipId),
    ("location_id", writeWord agent.locationId),
    ("domain", writeWord agent.domain),
    ("regions", ofItems (agent.regions.map writeRegion)),
    ("caches", ofItems (agent.caches.map writeCache))]

def writeTopology (topology : Topology) : List Char :=
  ofMembers [
    ("version_major", writeWord topology.versionMajor),
    ("version_minor", writeWord topology.versionMinor),
    ("generation_id", writeWord topology.generationId),
    ("platform_oem", writeWord topology.platformOem),
    ("platform_id", writeWord topology.platformId),
    ("platform_revision", writeWord topology.platformRevision),
    ("agents", ofItems (topology.agents.map writeAgent))]

def write (topology : Topology) : String :=
  String.ofList (writeTopology topology)

end ComputeTopology.Capture
