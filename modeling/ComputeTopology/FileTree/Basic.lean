import ComputeTopology.FileTree.Path

/-! # File trees

A tree of directories and files. Only text is ever read from files, so a file is
its text, and one whose bytes are no UTF-8 has none. A path is followed one component at a time:
nothing can follow a file, an empty component and a dot stay where they are, two
dots go up and stay at the root. The names in a directory are expected to differ.
-/

namespace ComputeTopology

inductive FileTree where
  | file (text : Option String)
  | directory (entries : List (String × FileTree))

inductive AccessError where
  | notFound
  | notDirectory
  | isDirectory
  | notText
deriving DecidableEq

def AccessError.message : AccessError → String
  | .notFound => "No such file or directory (os error 2)"
  | .notDirectory => "Not a directory (os error 20)"
  | .isDirectory => "Is a directory (os error 21)"
  | .notText => "stream did not contain valid UTF-8"

namespace FileTree

def empty : FileTree := .directory []

/-- Follow components from a place, given the directories above it, nearest first. -/
def walk (above : List FileTree) (here : FileTree) : List String → Except AccessError FileTree
  | [] => .ok here
  | name :: rest =>
      match here with
      | .file _ => .error .notDirectory
      | .directory entries =>
          if name = "" ∨ name = "." then walk above here rest
          else if name = ".." then
            match above with
            | [] => walk [] here rest
            | parent :: higher => walk higher parent rest
          else
            match entries.lookup name with
            | some child => walk (here :: above) child rest
            | none => .error .notFound

def locate (root : FileTree) (path : String) : Except AccessError FileTree :=
  if path.isEmpty then .error .notFound else walk [] root (Path.components path)

def isDirectory (root : FileTree) (path : String) : Bool :=
  match root.locate path with
  | .ok (.directory _) => true
  | _ => false

def readText (root : FileTree) (path : String) : Except AccessError String :=
  match root.locate path with
  | .error failure => .error failure
  | .ok (.directory _) => .error .isDirectory
  | .ok (.file none) => .error .notText
  | .ok (.file (some text)) => .ok text

/-- The text of the file at a path without blanks at its ends, unless nothing is left. -/
def readTrimmed (root : FileTree) (path : String) : Option String :=
  match root.readText path with
  | .error _ => none
  | .ok text =>
      let trimmed := Text.trim text.toList
      if trimmed.isEmpty then none else some (String.ofList trimmed)

/-- What a directory holds under a name, an empty directory if nothing. -/
def child (entries : List (String × FileTree)) (name : String) : FileTree :=
  (entries.lookup name).getD empty

/-- Put something under a name, in place of what was there. -/
def put (entries : List (String × FileTree)) (name : String) (tree : FileTree) :
    List (String × FileTree) :=
  match entries with
  | [] => [(name, tree)]
  | (taken, found) :: rest =>
      if taken = name then (name, tree) :: rest else (taken, found) :: put rest name tree

/-- Change what stands below a path of plain names, making directories on the way. -/
def update (change : FileTree → FileTree) : List String → FileTree → FileTree
  | [], here => change here
  | name :: rest, .directory entries =>
      .directory (put entries name (update change rest (child entries name)))
  | name :: rest, .file _ => .directory (put [] name (update change rest empty))

/-- The names that lead to the next place, last first. -/
def descend (reversed : List String) (name : String) : List String :=
  if name = "" ∨ name = "." then reversed
  else if name = ".." then reversed.tail
  else name :: reversed

/-- Make a directory of every place that components pass through, given the
    names that lead to the first of them, last first. -/
def passable (root : FileTree) (reversed : List String) : List String → FileTree
  | [] => root.update id reversed.reverse
  | name :: rest => (root.update id reversed.reverse).passable (descend reversed name) rest

/-- A tree with a file of these bytes at a path. -/
def withFile (root : FileTree) (path : String) (bytes : ByteArray) : FileTree :=
  let components := Path.components path
  (root.passable [] components.dropLast).update (fun _ => .file (String.fromUTF8? bytes))
    (components.foldl descend []).reverse

def withDirectory (root : FileTree) (path : String) : FileTree :=
  root.passable [] (Path.components path)

end FileTree

end ComputeTopology
