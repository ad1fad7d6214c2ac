import ComputeTopology.Json.Token

/-! # JSON trees

A tree is built in one pass over the tokens. The reader keeps the arrays and
objects that are still open as a stack of frames, so nesting is bounded by
nothing but the text. An object keeps its members in order and keeps all of
them, whatever their keys.
-/

namespace ComputeTopology.Json

inductive Tree where
  | null
  | bool (value : Bool)
  | number (lexeme : List Char)
  | text (content : Option String)
  | array (items : List Tree)
  | object (members : List (Option String × Tree))

/-- A key and its value. The key is absent if its surrogates do not pair up. -/
abbrev Member := Option String × Tree

/-- An array or object that is still open, what it holds so far last first. -/
inductive Frame where
  | array (reversed : List Tree)
  | object (reversed : List Member) (key : Option String)

/-- What the reader has to see next, inside which frames. -/
inductive Reader where
  | anyValue (frames : List Frame)
  | firstItem (frames : List Frame)
  | firstKey (frames : List Frame)
  | nextKey (reversed : List Member) (frames : List Frame)
  | colon (key : Option String) (reversed : List Member) (frames : List Frame)
  | afterItem (reversed : List Tree) (frames : List Frame)
  | afterMember (reversed : List Member) (frames : List Frame)
  | complete (tree : Tree)

namespace Reader

/-- Hand a finished tree to the innermost open frame. -/
def close (tree : Tree) : List Frame → Reader
  | [] => .complete tree
  | .array reversed :: frames => .afterItem (tree :: reversed) frames
  | .object reversed key :: frames => .afterMember ((key, tree) :: reversed) frames

def beginValue (frames : List Frame) : Token → Option Reader
  | .null => some (close .null frames)
  | .bool value => some (close (.bool value) frames)
  | .number lexeme => some (close (.number lexeme) frames)
  | .text content => some (close (.text content) frames)
  | .openArray => some (.firstItem frames)
  | .openObject => some (.firstKey frames)
  | _ => none

def step (reader : Reader) (token : Token) : Option Reader :=
  match reader, token with
  | .anyValue frames, _ => beginValue frames token
  | .firstItem frames, .closeArray => some (close (.array []) frames)
  | .firstItem frames, _ => beginValue (.array [] :: frames) token
  | .firstKey frames, .closeObject => some (close (.object []) frames)
  | .firstKey frames, .text key => some (.colon key [] frames)
  | .nextKey reversed frames, .text key => some (.colon key reversed frames)
  | .colon key reversed frames, .colon => some (.anyValue (.object reversed key :: frames))
  | .afterItem reversed frames, .comma => some (.anyValue (.array reversed :: frames))
  | .afterItem reversed frames, .closeArray => some (close (.array reversed.reverse) frames)
  | .afterMember reversed frames, .comma => some (.nextKey reversed frames)
  | .afterMember reversed frames, .closeObject => some (close (.object reversed.reverse) frames)
  | _, _ => none

/-- The tree, if the reader has seen all of it. -/
def finish : Reader → Option Tree
  | .complete tree => some tree
  | _ => none

end Reader

/-- The tree of a text that holds one JSON value and nothing else. -/
def parse? (text : List Char) : Option Tree :=
  (tokens? text).bind fun tokens =>
    (tokens.foldlM Reader.step (.anyValue [])).bind Reader.finish

end ComputeTopology.Json
