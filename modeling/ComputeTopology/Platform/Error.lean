import ComputeTopology.Attribute.Value
import ComputeTopology.Text.Numeral

/-! # What can go wrong

A platform fails with a `PlatformError`. A `Failure` is what ends a survey: the
platform did not start or has no version, an object could not be classified,
a list of objects could not be had, or the platform did not shut down. A missing
attribute of any other kind is no failure.
-/

namespace ComputeTopology

inductive PlatformError where
  /-- Called before the platform was initialized or after it was shut down. -/
  | notInitialized
  /-- A handle that this platform never issued. -/
  | invalidHandle (kind : String) (bits : UInt64)
  | unavailable (message : String)
  | io (message : String)
deriving DecidableEq

def PlatformError.message : PlatformError → String
  | .notInitialized => "runtime is not initialized"
  | .invalidHandle kind bits =>
      "invalid " ++ kind ++ " handle " ++ Text.Numeral.prefixedHex bits.toNat
  | .unavailable message => message
  | .io message => "I/O error: " ++ message

inductive Failure where
  | initialization (call : String) (cause : PlatformError)
  | classification (object : String) (cause : Attribute.Unavailable)
  | traversal (call : String) (cause : PlatformError)
  | shutdown (call : String) (cause : PlatformError)
deriving DecidableEq

namespace Failure

def message : Failure → String
  | .initialization call cause => call ++ " failed: " ++ cause.message
  | .classification object cause => "cannot classify " ++ object ++ ": " ++ cause.message
  | .traversal call cause => call ++ " failed: " ++ cause.message
  | .shutdown call cause => call ++ " failed: " ++ cause.message

def isClassification : Failure → Bool
  | .classification _ _ => true
  | _ => false

end Failure

section Renaming

variable {α ε ε' : Type} (rename : ε → ε')

@[simp] theorem mapError_ok (value : α) :
    (.ok value : Except ε α).mapError rename = .ok value := rfl

@[simp] theorem mapError_error (cause : ε) :
    (.error cause : Except ε α).mapError rename = .error (rename cause) := rfl

end Renaming

end ComputeTopology
