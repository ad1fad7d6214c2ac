import ComputeTopology.CommandLine.Argument
import ComputeTopology.Kfd.Locations

/-! # The command line

Arguments are taken from left to right. Asking for help or the version ends the
reading at once, and so does the first argument that cannot be used: an unknown
one, a second occurrence, a missing or an empty value. After them, options that
were not given take their value from the environment. A capture and a topology
root exclude each other, wherever they come from.
-/

namespace ComputeTopology.CommandLine

/-- The variables of the process, by distinct names. -/
abbrev Environment := List (String × String)

structure Invocation where
  topologyRoot : Option String
  capture : Option String
  keepGoing : Bool
  verbose : Bool
deriving DecidableEq

inductive Request where
  | run (invocation : Invocation)
  | help
  | version
  | misuse
deriving DecidableEq

/-- The exit code of a request that is answered without a run. -/
def Request.exitCode? : Request → Option UInt8
  | .run _ => none
  | .help => some 0
  | .version => some 0
  | .misuse => some 2

namespace Invocation

def initial : Invocation where
  topologyRoot := none
  capture := none
  keepGoing := false
  verbose := false

def value? (invocation : Invocation) : Setting → Option String
  | .topologyRoot => invocation.topologyRoot
  | .capture => invocation.capture

def withValue (invocation : Invocation) (value : String) : Setting → Invocation
  | .topologyRoot => { invocation with topologyRoot := some value }
  | .capture => { invocation with capture := some value }

/-- Take in a value. It must not be empty, nor the second one. -/
def give (invocation : Invocation) (setting : Setting) (value : String) :
    Except Request Invocation :=
  if (invocation.value? setting).isSome ∨ value.isEmpty then .error .misuse
  else .ok (invocation.withValue value setting)

/-- Take in a switch. It must not be repeated. -/
def turnOn (invocation : Invocation) : Switch → Except Request Invocation
  | .keepGoing =>
      if invocation.keepGoing then .error .misuse else .ok { invocation with keepGoing := true }
  | .verbose =>
      if invocation.verbose then .error .misuse else .ok { invocation with verbose := true }
  | .help => .error .help
  | .version => .error .version

/-- Take in the letters behind one dash. -/
def turnOnLetters (invocation : Invocation) : List Char → Except Request Invocation
  | [] => .ok invocation
  | letter :: rest =>
      match Switch.ofLetter? letter with
      | none => .error .misuse
      | some switch =>
          match invocation.turnOn switch with
          | .error request => .error request
          | .ok next => next.turnOnLetters rest

def takeArguments (invocation : Invocation) : List String → Except Request Invocation
  | [] => .ok invocation
  | argument :: rest =>
      match Argument.ofString argument with
      | .unknown => .error .misuse
      | .endOfOptions => if rest.isEmpty then .ok invocation else .error .misuse
      | .switch switch =>
          match invocation.turnOn switch with
          | .error request => .error request
          | .ok next => next.takeArguments rest
      | .letters letters =>
          match invocation.turnOnLetters letters with
          | .error request => .error request
          | .ok next => next.takeArguments rest
      | .setting setting (some value) =>
          match invocation.give setting value with
          | .error request => .error request
          | .ok next => next.takeArguments rest
      | .setting setting none =>
          match rest with
          | [] => .error .misuse
          | value :: others =>
              if Argument.isValue value then
                match invocation.give setting value with
                | .error request => .error request
                | .ok next => next.takeArguments others
              else .error .misuse

/-- Take the value of an option from the environment, if it has none yet. -/
def fillIn (environment : Environment) (invocation : Invocation) (setting : Setting) :
    Except Request Invocation :=
  match invocation.value? setting, environment.lookup setting.variableName with
  | none, some value => invocation.give setting value
  | _, _ => .ok invocation

/-- The places this run reads the topology from. -/
def locations (invocation : Invocation) (environment : Environment) : Kfd.Locations :=
  let usual := Kfd.Locations.ofEnvironment environment
  match invocation.topologyRoot with
  | some root => { usual with topologyRoot := root }
  | none => usual

def logLevels : List String := ["trace", "debug", "info", "warn", "error", "off"]

/-- The level of the log: everything of interest if verbose, else what the
    environment says, else warnings. It stands in for a filter of the logging
    library, of which it knows the plain levels only: directives for single
    targets count as none at all. -/
def logLevel (invocation : Invocation) (environment : Environment) : String :=
  if invocation.verbose then "debug"
  else
    match environment.lookup "RUST_LOG" with
    | none => "warn"
    | some level =>
        if level.isEmpty then "error"
        else if logLevels.contains level.toLower then level.toLower
        else "warn"

end Invocation

/-- The invocation that arguments and environment make up. -/
def invocation? (environment : Environment) (arguments : List String) :
    Except Request Invocation := do
  let given ← Invocation.initial.takeArguments arguments
  let rooted ← given.fillIn environment .topologyRoot
  let filled ← rooted.fillIn environment .capture
  if filled.topologyRoot.isSome ∧ filled.capture.isSome then .error .misuse else .ok filled

/-- What a command line asks for. Its first argument is the name of the program. -/
def parse (environment : Environment) (commandLine : List String) : Request :=
  match invocation? environment commandLine.tail with
  | .ok invocation => .run invocation
  | .error request => request

def programName : String := "hsatopo"

def versionText : String := programName ++ " 0.3.0\n"

end ComputeTopology.CommandLine
