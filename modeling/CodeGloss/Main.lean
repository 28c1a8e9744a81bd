import CodeGloss.Command.Help
import CodeGloss.Command.Run

/-!
# The program

The command line around `CommandLine.run`, which says all that is to be done.  Here the parts of the
file system that a run may look at are read into a `Disk` before it, and after it what was printed is
printed and what was kept for the workspace is written.  A link is read as a copy of what it leads to.
There is no connection to a service, so a run here finds every request without a reply.
-/

namespace CodeGloss
namespace Program

/-! ## Reading the file system -/

/-- What is at a path, with everything below it.  Of a directory with the records of a repository only
the file that says what is left out of walks is needed, and links below a directory are passed over. -/
partial def readTree (path : String) : IO (Option FileTree) := do
  match ← (IO.FS.readBinFile path).toBaseIO with
  | .ok content => return some (.file content)
  | .error _ =>
    let real ← IO.FS.realPath path
    match ← real.readDir.toBaseIO with
    | .error _ => return none
    | .ok entries =>
      let mut below := []
      for entry in entries do
        let inner := Path.join real.toString entry.fileName
        if entry.fileName == ".git" then
          below := (".git", .empty) :: below
        else if (← (IO.FS.realPath inner).toBaseIO).toOption.any (·.toString == inner) then
          if let some tree ← readTree inner then
            below := (entry.fileName, tree) :: below
      return some (.directory below)

/-- The disk with what is at a path. -/
def addPath (disk : Disk) (path : String) : IO Disk := do
  match ← (readTree path).toBaseIO with
  | .ok (some (.file content)) =>
    let above := (disk.makeDirectories ((Path.parent? path).getD "")).toOption.getD disk
    return (above.writeBytes path content).toOption.getD disk
  | .ok (some directory) =>
    let above := (disk.makeDirectories path).toOption.getD disk
    let put := (above.resolve path).bind fun place => above.put place directory
    return put.toOption.getD disk
  | _ => return disk

/-- The disk with what a directory around the files of a run has to say about them. -/
def addSurroundings (disk : Disk) (directory : String) : IO Disk := do
  let mut disk := disk
  let git := Path.join directory ".git"
  if (← (IO.FS.realPath git).toBaseIO).toOption.isSome then
    disk := (disk.makeDirectories git).toOption.getD disk
  for name in [".ignore", ".gitignore", ".git/info/exclude"] do
    disk ← addPath disk (Path.join directory name)
  for path in [Settings.workspaceFile directory, History.path directory,
      Command.logPath directory] do
    disk ← addPath disk path
  return disk

/-- The paths that a command line names. -/
def namedPaths (c : CommandLine) : List String :=
  c.settings.toList ++ match c.command with
    | .detect r => r.paths
    | .browse r => [r.path]
    | .upload r => [r.path]
    | .annotate r => [r.path]
    | _ => []

/-- The variables of the environment that are set. -/
def readEnvironment : IO Environment := do
  let mut env := []
  for name in Settings.variableNames do
    if let some value ← IO.getEnv name then
      env := (name, value) :: env
  return env

/-- The world as a run of a command line finds it. -/
def readWorld (c : CommandLine) : IO World := do
  let here := (← IO.currentDir).toString
  let env ← readEnvironment
  let start : Disk := ⟨.empty, (Path.pieces here).filter (· != "")⟩
  let mut disk := (start.makeDirectories here).toOption.getD start
  for path in namedPaths c do
    disk ← addPath disk path
  let named := (namedPaths c).filterMap fun path => (disk.canonical path).toOption
  for path in here :: named do
    for directory in Path.upwards path do
      if disk.isDirectory directory then
        disk ← addSurroundings disk directory
  if let some file := Settings.userFile? env then
    disk ← addPath disk file
  return { disk, env }

/-! ## Running -/

/-- Writes what a run keeps for the workspace. -/
def writeBack (before after : Disk) : IO Unit := do
  let root := Settings.workspaceRoot before
  for path in [History.path root, Command.logPath root] do
    if let .ok content := after.readBytes path then
      if (before.readBytes path).toOption != some content then
        IO.FS.createDirAll (History.stateDirectory root)
        IO.FS.writeBinFile path content

/-- Runs a command line once, and gives the exit code. -/
def runOnce (c : CommandLine) (w : World) : IO UInt32 := do
  let (outcome, after) := (c.run.run).run w
  IO.print after.printed
  (← IO.getStdout).flush
  writeBack w.disk after.disk
  match outcome with
  | .ok () => return 0
  | .error report =>
    IO.eprintln ("Error: " ++ report.line)
    return 1

/-- Runs a command line again whenever the file that it watches has changed, until a run fails. -/
partial def runOnChanges (c : CommandLine) (path : String) (last : ByteArray) : IO UInt32 := do
  IO.sleep 500
  match ← (IO.FS.readBinFile path).toBaseIO with
  | .error _ => runOnChanges c path last
  | .ok content =>
    if content == last then runOnChanges c path last
    else
      let code ← runOnce c (← readWorld c)
      if code == 0 then runOnChanges c path content else return code

/-- Does what a command line says. -/
def perform (c : CommandLine) : IO UInt32 := do
  let w ← readWorld c
  let code ← runOnce c w
  match c.command with
  | .detect ⟨[path], language, json, globs, true⟩ =>
    if code != 0 then return code
    let once := { c with command := .detect ⟨[path], language, json, globs, false⟩ }
    runOnChanges once path ((w.disk.readBytes path).toOption.getD .empty)
  | _ => return code

end Program
end CodeGloss

/-- The program. -/
def main (arguments : List String) : IO UInt32 := do
  match CodeGloss.CommandLine.read arguments with
  | .ok c => CodeGloss.Program.perform c
  | .error refusal =>
    if refusal.complaint?.isSome then IO.eprint refusal.text else IO.print refusal.text
    return refusal.exitCode.toUInt32
