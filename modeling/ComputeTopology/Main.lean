import ComputeTopology.Diagnostics.Execution

/-! # The program

Reads the environment, the command line and the files a run looks at, and prints
the report. Messages go to the standard error output, and the exit code tells
what went wrong.
-/

namespace ComputeTopology.Program

def usage : String :=
  "Usage: " ++ CommandLine.programName ++ " [OPTIONS]\n"

def help : String :=
  "Print the HSA compute topology: agents, memory regions and caches\n\n" ++ usage ++
  "\nOptions:\n" ++
  "      --topology-root <DIR>  KFD topology directory to read instead of the system one\n" ++
  "      --fixture <FILE>       Replay a JSON topology instead of probing the system\n" ++
  "      --keep-going           Skip agents and regions that cannot be classified instead of aborting\n" ++
  "  -v, --verbose              Enable verbose/debug output\n" ++
  "  -h, --help                 Print help\n" ++
  "  -V, --version              Print version\n"

def readEnvironment : IO CommandLine.Environment := do
  let bytes ← try IO.FS.readBinFile "/proc/self/environ" catch _ => pure ByteArray.empty
  let assignments := Text.split (· == '\x00') ((String.fromUTF8? bytes).getD "").toList
  return assignments.filterMap fun text =>
    (Text.cut? '=' text).map (fun (name, value) => (String.ofList name, String.ofList value))

def isDirectory (path : String) : IO Bool := do
  try
    let _ ← IO.FS.realPath (Path.join path ".")
    return true
  catch _ => return false

/-- A tree with what stands at a path of this machine, if anything does. -/
def addPath (tree : FileTree) (path : String) : IO FileTree := do
  try
    return tree.withFile path (← IO.FS.readBinFile path)
  catch _ =>
    if ← isDirectory path then return tree.withDirectory path else return tree

/-- The numbered directories at a path of this machine. -/
def numberedPaths (path : String) : IO (List String) := do
  let entries ← try (← IO.FS.realPath path).readDir catch _ => pure #[]
  let numbered := entries.toList.filterMap fun entry => FileTree.numbered? (entry.fileName, .empty)
  (numbered.map fun entry => Path.join path entry.name).filterM isDirectory

/-- A tree with the objects in the numbered directories at a path. -/
def addObjects (tree : FileTree) (path : String) : IO FileTree := do
  (← numberedPaths path).foldlM
    (fun tree object => do addPath (tree.withDirectory object) (Path.join object "properties")) tree

def addNode (tree : FileTree) (node : String) : IO FileTree := do
  let described ← ["properties", "name"].foldlM (fun tree name => addPath tree (Path.join node name))
    (tree.withDirectory node)
  ["mem_banks", "caches"].foldlM (fun tree name => addObjects tree (Path.join node name)) described

/-- The files about PCI devices that the agents of a topology refer to. -/
def revisionPaths (tree : FileTree) (locations : Kfd.Locations) : List String :=
  match Kfd.Snapshot.load tree locations with
  | .error _ => []
  | .ok snapshot => snapshot.agents.filterMap fun agent =>
      agent.locationId.map (fun location => locations.pciRevision (agent.domain.getD 0) location)

/-- The part of this machine's file tree that a topology is read from. -/
def topologyFiles (locations : Kfd.Locations) : IO FileTree := do
  let single := [locations.topologyRoot, locations.systemProperties, locations.generationId,
    locations.cpuInfo] ++ locations.productTables
  let described ← single.foldlM addPath .empty
  let withNodes ← (← numberedPaths locations.nodes).foldlM addNode described
  (revisionPaths withNodes locations).foldlM addPath withNodes

/-- The part of this machine's file tree that a run looks at. -/
def filesFor (environment : CommandLine.Environment) (invocation : CommandLine.Invocation) :
    IO FileTree :=
  match invocation.capture with
  | some path => addPath .empty path
  | none => topologyFiles (invocation.locations environment)

def publish (outcome : Diagnostics.Outcome) : IO (Except Diagnostics.RunError Unit) := do
  try
    let output ← IO.getStdout
    output.write ⟨outcome.sink.received.toArray⟩
    output.flush
    return outcome.result
  catch failure => return .error (.io (toString failure))

/-- What is said of a text that describes no topology. -/
def complaint (_ : String) : String := "not a topology description"

def run (environment : CommandLine.Environment) (invocation : CommandLine.Invocation) : IO UInt32 := do
  let files ← filesFor environment invocation
  match ← publish (Diagnostics.execute files environment invocation .unlimited complaint) with
  | .ok () => return 0
  | .error failure =>
      IO.eprintln ("[-] " ++ failure.message)
      return failure.exitCode.toUInt32

/-- Answer a request that asks for no run. -/
def answer : CommandLine.Request → IO Unit
  | .run _ => return ()
  | .help => IO.print help
  | .version => IO.print CommandLine.versionText
  | .misuse => IO.eprint usage

end ComputeTopology.Program

open ComputeTopology in
def main (arguments : List String) : IO UInt32 := do
  let environment ← Program.readEnvironment
  match CommandLine.parse environment (CommandLine.programName :: arguments) with
  | .run invocation => Program.run environment invocation
  | request => do
      Program.answer request
      return (request.exitCode?.getD 0).toUInt32
