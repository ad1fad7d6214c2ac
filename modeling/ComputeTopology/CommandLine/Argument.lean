import ComputeTopology.Text.Pieces

/-! # Arguments

What one argument of the command line says by itself. Switches are long, or
letters that can be gathered behind one dash. Options take a value, after an
equals sign or as the next argument.
-/

namespace ComputeTopology.CommandLine

inductive Switch where
  | keepGoing
  | verbose
  | help
  | version
deriving DecidableEq

inductive Setting where
  | topologyRoot
  | capture
deriving DecidableEq

namespace Switch

def ofName? : String → Option Switch
  | "keep-going" => some .keepGoing
  | "verbose" => some .verbose
  | "help" => some .help
  | "version" => some .version
  | _ => none

def ofLetter? : Char → Option Switch
  | 'v' => some .verbose
  | 'h' => some .help
  | 'V' => some .version
  | _ => none

end Switch

namespace Setting

def ofName? : String → Option Setting
  | "topology-root" => some .topologyRoot
  | "fixture" => some .capture
  | _ => none

/-- The variable that gives a value when the command line does not. -/
def variableName : Setting → String
  | .topologyRoot => "HSATOPO_TOPOLOGY_ROOT"
  | .capture => "HSATOPO_FIXTURE"

end Setting

inductive Argument where
  | switch (switch : Switch)
  /-- Letters behind one dash. -/
  | letters (letters : List Char)
  | setting (setting : Setting) (value : Option String)
  /-- Two dashes alone, after which nothing is an option. -/
  | endOfOptions
  /-- Anything that this command line does not know. -/
  | unknown
deriving DecidableEq

namespace Argument

/-- An argument without the two dashes in front. -/
def ofLong (body : List Char) : Argument :=
  let (name, value) := match Text.cut? '=' body with
    | some (name, value) => (String.ofList name, some (String.ofList value))
    | none => (String.ofList body, none)
  match Setting.ofName? name, Switch.ofName? name, value with
  | some found, _, _ => .setting found value
  | none, some found, none => .switch found
  | none, _, _ => .unknown

def ofChars : List Char → Argument
  | ['-', '-'] => .endOfOptions
  | '-' :: '-' :: body => ofLong body
  | '-' :: first :: rest => .letters (first :: rest)
  | _ => .unknown

def ofString (argument : String) : Argument :=
  ofChars argument.toList

/-- Whether an argument can be the value of the option before it. Of those that
    begin with a dash only the dash alone can, and an empty one cannot. -/
def isValue (argument : String) : Bool :=
  argument == "-" || (argument != "" && argument.toList.head? != some '-')

end Argument

end ComputeTopology.CommandLine
