import ComputeTopology.Inventory.Kind

/-! # Attribute values

A platform answers a query with a value of whatever type it likes, or says why
it has none. The reader asks for one type: an unsigned number may come in any
width up to the one asked for and is widened, never narrowed, and every other
type has to match. An answer of the wrong type counts as unavailable.
-/

namespace ComputeTopology.Attribute

inductive Value where
  | u8 (value : UInt8)
  | u16 (value : UInt16)
  | u32 (value : UInt32)
  | u64 (value : UInt64)
  | bool (value : Bool)
  | text (value : String)
  | device (value : DeviceClass)
  | segment (value : Segment)
deriving DecidableEq

def Value.typeName : Value → String
  | .u8 _ => "u8"
  | .u16 _ => "u16"
  | .u32 _ => "u32"
  | .u64 _ => "u64"
  | .bool _ => "bool"
  | .text _ => "text"
  | .device _ => "device class"
  | .segment _ => "segment kind"

inductive Reason where
  | notSupported
  | notReported
  | invalidHandle
  | notInitialized
  | typeMismatch (expected found : String)
deriving DecidableEq

def Reason.message : Reason → String
  | .notSupported => "not supported for this object"
  | .notReported => "not reported by the platform"
  | .invalidHandle => "unknown handle"
  | .notInitialized => "runtime is not initialized"
  | .typeMismatch expected found => "expected " ++ expected ++ ", platform returned " ++ found

/-- A query that failed: the label of the attribute, and the reason. -/
structure Unavailable where
  label : String
  reason : Reason
deriving DecidableEq

def Unavailable.message (failure : Unavailable) : String :=
  "attribute `" ++ failure.label ++ "` unavailable: " ++ failure.reason.message

abbrev Answer := Except Unavailable Value

/-- A type that an attribute can be asked for as. -/
class Readable (α : Type) where
  typeName : String
  ofValue? : Value → Option α

instance : Readable UInt8 where
  typeName := "u8"
  ofValue?
    | .u8 value => some value
    | _ => none

instance : Readable UInt16 where
  typeName := "u16"
  ofValue?
    | .u8 value => some value.toUInt16
    | .u16 value => some value
    | _ => none

instance : Readable UInt32 where
  typeName := "u32"
  ofValue?
    | .u8 value => some value.toUInt32
    | .u16 value => some value.toUInt32
    | .u32 value => some value
    | _ => none

instance : Readable UInt64 where
  typeName := "u64"
  ofValue?
    | .u8 value => some value.toUInt64
    | .u16 value => some value.toUInt64
    | .u32 value => some value.toUInt64
    | .u64 value => some value
    | _ => none

instance : Readable Bool where
  typeName := "bool"
  ofValue?
    | .bool value => some value
    | _ => none

instance : Readable String where
  typeName := "text"
  ofValue?
    | .text value => some value
    | _ => none

instance : Readable DeviceClass where
  typeName := "device class"
  ofValue?
    | .device value => some value
    | _ => none

instance : Readable Segment where
  typeName := "segment kind"
  ofValue?
    | .segment value => some value
    | _ => none

def Answer.read {α : Type} [Readable α] (label : String) (answer : Answer) :
    Except Unavailable α :=
  match answer with
  | .error failure => .error failure
  | .ok value =>
      match Readable.ofValue? value with
      | some found => .ok found
      | none => .error ⟨label, .typeMismatch (Readable.typeName α) value.typeName⟩

/-- The answer for a fact that a platform may lack. -/
def Answer.ofFact {α : Type} (label : String) (wrap : α → Value) : Option α → Answer
  | some value => .ok (wrap value)
  | none => .error ⟨label, .notReported⟩

end ComputeTopology.Attribute
