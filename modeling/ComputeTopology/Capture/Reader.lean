import ComputeTopology.Capture.Basic
import ComputeTopology.Json.Tree

/-! # Reading captures

A record is written as an object or as an array of its fields in order. In an
object a field may be missing, a known field may not be given twice, and members
that are no fields are ignored whatever they hold. In an array trailing fields
may be missing. A missing field has its default, which for the two parts of the
version is one. Numbers have to be integers in plain digits that fit their width.
-/

namespace ComputeTopology.Capture

open Json

def wordOf? {α : Type} [Word α] : Tree → Option α
  | .number lexeme => if Token.isDigits lexeme then Text.Numeral.word? 10 lexeme else none
  | _ => none

def textOf? : Tree → Option String
  | .text content => content
  | _ => none

def boolOf? : Tree → Option Bool
  | .bool value => some value
  | _ => none

/-- A name, alone or as the only key of an object that holds null. -/
def nameOf? : Tree → Option String
  | .text content => content
  | .object [(key, .null)] => key
  | _ => none

def deviceOf? (tree : Tree) : Option DeviceClass :=
  (nameOf? tree).bind DeviceClass.ofName?

def segmentOf? (tree : Tree) : Option Segment :=
  (nameOf? tree).bind Segment.ofName?

/-- How to find the value of a field by its name. -/
abbrev Fields := String → Option Tree

/-- The fields of an object, if every key can be read and no field is given twice. -/
def fieldsOfObject? (names : List String) (members : List Member) : Option Fields :=
  if members.all (·.1.isSome) ∧
      names.all (fun name => members.countP (·.1 == some name) ≤ 1) then
    some (fun name => members.lookup (some name))
  else none

/-- The fields of an array, if it has no more items than there are fields. -/
def fieldsOfArray? (names : List String) (items : List Tree) : Option Fields :=
  if items.length ≤ names.length then some (fun name => (names.zip items).lookup name) else none

def fields? (names : List String) : Tree → Option Fields
  | .object members => fieldsOfObject? names members
  | .array items => fieldsOfArray? names items
  | _ => none

/-- A field that may be missing, or null. -/
def optional? {α : Type} (default : Option α) (read : Tree → Option α) :
    Option Tree → Option (Option α)
  | none => some default
  | some .null => some none
  | some tree => (read tree).map some

/-- A field that may be missing and holds an array otherwise. -/
def list? {α : Type} (read : Tree → Option α) : Option Tree → Option (List α)
  | none => some []
  | some (.array items) => items.mapM read
  | some _ => none

def regionFields : List String := ["segment", "size", "host_accessible"]

def regionOf? (tree : Tree) : Option Region := do
  let field ← fields? regionFields tree
  return {
    segment := ← optional? none segmentOf? (field "segment")
    size := ← optional? none wordOf? (field "size")
    hostAccessible := ← optional? none boolOf? (field "host_accessible") }

def cacheFields : List String := ["level", "size", "associativity"]

def cacheOf? (tree : Tree) : Option Cache := do
  let field ← fields? cacheFields tree
  return {
    level := ← optional? none wordOf? (field "level")
    size := ← optional? none wordOf? (field "size")
    associativity := ← optional? none wordOf? (field "associativity") }

def agentFields : List String :=
  ["node_id", "name", "product_name", "device", "compute_units", "simds_per_cu", "max_waves_per_cu",
   "chip_id", "location_id", "domain", "regions", "caches"]

def agentOf? (tree : Tree) : Option Agent := do
  let field ← fields? agentFields tree
  return {
    nodeId := ← optional? none wordOf? (field "node_id")
    name := ← optional? none textOf? (field "name")
    productName := ← optional? none textOf? (field "product_name")
    device := ← optional? none deviceOf? (field "device")
    computeUnits := ← optional? none wordOf? (field "compute_units")
    simdsPerUnit := ← optional? none wordOf? (field "simds_per_cu")
    maxWavesPerUnit := ← optional? none wordOf? (field "max_waves_per_cu")
    chipId := ← optional? none wordOf? (field "chip_id")
    locationId := ← optional? none wordOf? (field "location_id")
    domain := ← optional? none wordOf? (field "domain")
    regions := ← list? regionOf? (field "regions")
    caches := ← list? cacheOf? (field "caches") }

def topologyFields : List String :=
  ["version_major", "version_minor", "generation_id", "platform_oem", "platform_id",
   "platform_revision", "agents"]

def topologyOf? (tree : Tree) : Option Topology := do
  let field ← fields? topologyFields tree
  return {
    versionMajor := ← optional? (some 1) wordOf? (field "version_major")
    versionMinor := ← optional? (some 1) wordOf? (field "version_minor")
    generationId := ← optional? none wordOf? (field "generation_id")
    platformOem := ← optional? none wordOf? (field "platform_oem")
    platformId := ← optional? none wordOf? (field "platform_id")
    platformRevision := ← optional? none wordOf? (field "platform_revision")
    agents := ← list? agentOf? (field "agents") }

def read? (text : String) : Option Topology :=
  (parse? text.toList).bind topologyOf?

end ComputeTopology.Capture
