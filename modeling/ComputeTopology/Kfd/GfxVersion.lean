import ComputeTopology.Text.Numeral
import ComputeTopology.Text.Pieces

/-! # Graphics versions

The version of a GPU's graphics core. The kernel packs it into one decimal
number, two digits for the minor version and two for the stepping. An override
is written as three numbers with points between them. The name of a version
shows the minor version and the stepping in hexadecimal.
-/

namespace ComputeTopology.Kfd

structure GfxVersion where
  major : UInt32
  minor : UInt32
  stepping : UInt32
deriving DecidableEq

namespace GfxVersion

def ofTarget (target : UInt32) : GfxVersion where
  major := target / 10000 % 100
  minor := target / 100 % 100
  stepping := target % 100

def ofOverride? (text : String) : Option GfxVersion :=
  match Text.split (· == '.') (Text.trim text.toList) with
  | [major, minor, stepping] => do
      return {
        major := ← Text.Numeral.word? 10 major
        minor := ← Text.Numeral.word? 10 minor
        stepping := ← Text.Numeral.word? 10 stepping }
  | _ => none

def name (version : GfxVersion) : String :=
  "gfx" ++ Text.Numeral.decimal version.major.toNat ++ Text.Numeral.hex version.minor.toNat ++
    Text.Numeral.hex version.stepping.toNat

end GfxVersion

end ComputeTopology.Kfd
