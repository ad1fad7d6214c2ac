import ComputeTopology.Text.Pieces

/-! # Paths

A path is a text. Slashes separate its components, and a path that begins with
one is absolute.
-/

namespace ComputeTopology.Path

def isAbsolute (path : String) : Bool :=
  path.toList.head? == some '/'

/-- A path below another one. An absolute path stands for itself. -/
def join (base path : String) : String :=
  if isAbsolute path || base.isEmpty then path
  else if base.toList.getLast? == some '/' then base ++ path
  else base ++ "/" ++ path

/-- The components of a path, empty ones included. -/
def components (path : String) : List String :=
  (Text.split (· == '/') path.toList).map String.ofList

end ComputeTopology.Path
