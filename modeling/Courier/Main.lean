/-
# The program — the command line on a real disk

The files that a run looks at are read first, then the run is computed, and then its log and what
it prints are written.  No gateway is reached from here: whatever is posted stays unanswered.
-/
import Courier.Cli.Run

namespace Courier.Program

/-- What stands at a path of the disk. -/
def nodeAt (path : String) : IO (Option Node) := do
  try
    return some (.file (← IO.FS.readBinFile path))
  catch
    | .noFileOrDirectory .. => return none
    | .inappropriateType .. => return some .directory
    | _ => return none

/-- What stands at some paths, for a process that works in a directory. -/
def filesAt (here : String) (paths : List String) : IO Files := do
  let start := pathParts here
  let nodes ← paths.filterMapM fun path => do
    let place := if isAbsolute path then pathParts path else start ++ pathParts path
    return (← nodeAt path).map fun node => (place, node)
  return ⟨start, nodes⟩

/-- The texts of a file that can be names of variables: those in braces, and words. -/
def namesIn (files : Files) (path : String) : List String :=
  match files.read path with
  | .error _ => []
  | .ok s =>
    let pieces := s.toList.splitOnP fun c => "$\x7b\x7d".toList.contains c
    ((pieces ++ pieces.map (·.takeWhile Text.isAlphanumeric)).map String.ofList).filter (· ≠ "")

/-- The variables of the process with given names. -/
def exportedOf (names : List String) : IO EnvFile.Names := do
  let pairs ← names.filterMapM fun name => do
    return (← IO.getEnv name).map fun value => (name, value)
  return fun name => pairs.lookup name

/-- What the process finds around it, as far as an invocation asks for it. -/
def surroundings (i : Cli.Invocation) : IO Cli.Surroundings := do
  let here := (← IO.currentDir).toString
  let home := (← IO.getEnv "HOME").getD ""
  let around (files : Files) (exported : EnvFile.Names) : Cli.Surroundings :=
    ⟨home, here, exported, ⟨files, .silent⟩⟩
  let first := around ⟨pathParts here, []⟩ fun _ => none
  let second := around (← filesAt here (Cli.pathsOf first i)) fun _ => none
  let paths := Cli.pathsOf second i
  let files ← filesAt here paths
  return around files (← exportedOf ("HOME" :: "RUST_LOG" :: paths.flatMap (namesIn files)))

/-- A record in one line. -/
def recordLine (r : LogRecord) : String :=
  r.level.name ++ " " ++ r.target ++ ": " ++ r.message ++ " " ++ (Json.Value.object r.fields).write

/-- Writes records to the console, and to the file in a directory if there is one. -/
def writeRecords (directory : Option String) (records : List LogRecord) : IO Unit := do
  for r in records do
    IO.eprintln (recordLine r)
  match directory with
  | none => return
  | some path =>
    IO.FS.createDirAll path
    IO.FS.writeFile (joinPath path "herald.log")
      (String.join (records.map fun r => r.toJson.write ++ "\n"))

/-- Runs an invocation and gives its exit code. -/
def execute (i : Cli.Invocation) : IO UInt32 := do
  let r := Cli.run (← surroundings i) i
  writeRecords r.logDirectory r.records
  match r.printed with
  | .ok s =>
    IO.print s
    return 0
  | .error e =>
    IO.eprintln ("Error: " ++ e.report)
    return 1

end Courier.Program

/-- The program. -/
def main (arguments : List String) : IO UInt32 := do
  match Courier.Cli.parse arguments with
  | .error e =>
    IO.eprintln ("error: " ++ e.message)
    return 2
  | .ok .version =>
    IO.print Courier.Cli.versionText
    return 0
  | .ok .help =>
    IO.print Courier.Cli.helpText
    return 0
  | .ok (.run i) => Courier.Program.execute i
