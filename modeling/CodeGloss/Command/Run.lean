import CodeGloss.Browser.Draw
import CodeGloss.Command.Command
import CodeGloss.Command.World
import CodeGloss.Scan

/-!
# Running commands

What the program does for each command.  Everything that a command does to the world is a step of its
`Run`: the settings are loaded first, and when something goes wrong the run ends there.
-/

namespace CodeGloss
namespace Command

open Service (Answer Inquiry)

/-! ## Common steps -/

/-- The one absolute path of a file, or the path itself if there is no such file. -/
def fullPath (path : String) : Run String :=
  Run.look fun w => (w.disk.canonical path).toOption.getD path

/-- Reads a source file. -/
def readSource (path : String) : Run String :=
  Run.withDisk fun disk => Fault.during ("failed to read " ++ Path.text path) (disk.readText path)

/-- The root of the workspace. -/
def workspace : Run String :=
  Run.look fun w => Settings.workspaceRoot w.disk

/-- What is remembered of the workspace. -/
def loadHistory (root : String) : Run History :=
  Run.withDisk fun disk => History.loadOrEmpty disk root

/-- Saves what is to be remembered of the workspace. -/
def saveHistory (root : String) (h : History) : Run Unit :=
  Run.changeDisk fun disk => History.save disk root h

/-- The session for a file. -/
def sessionFor (settings : Settings) (language : Option Hint) (path : String) : Session where
  options := settings.detector.options
  hint := settings.detector.hintFor language path

/-- The value of a call, or the failure of the run. -/
def expect (r : Except Service.Failure α) : Run α :=
  Run.lift (r.mapError fun failure => [.service failure])

/-! ## Listing definitions -/

/-- Prints reports. -/
def printReports (reports : List FileReport) (json : Bool) : Run Unit :=
  Run.print (if json then FileReport.writeJson reports ++ "\n"
    else String.join (reports.map FileReport.plain))

/-- Scans and prints. -/
def scanOnce (settings : Settings) (r : DetectRequest) : Run Unit := do
  let request : ScanRequest :=
    { paths := r.paths
      globs := r.globs
      language := r.language.getD settings.detector.hint }
  let reports ← Run.withDisk fun disk => request.run settings.detector.options disk
  printReports reports r.json

/-- Scans again whenever the file that is watched changes, as long as there are changes. -/
def scanOnChanges (settings : Settings) (r : DetectRequest) (watch : Watch) :
    List (String × ByteArray) → Run Unit
  | [] => pure ()
  | (path, content) :: rest => do
    Run.changeDisk fun disk =>
      Fault.during ("failed to write " ++ Path.text path) (disk.writeBytes path content)
    let place ← fullPath path
    let (changed, watch) := (watch.notice ⟨.modify, [place]⟩).ask
    if changed then scanOnce settings r
    scanOnChanges settings r watch rest

/-- Lists definitions. -/
def list (settings : Settings) (r : DetectRequest) : Run Unit := do
  scanOnce settings r
  if r.watch then
    match r.paths with
    | [path] =>
      if !(← Run.look fun w => w.disk.isFile path) then
        throw [.said ("--watch takes a file, not " ++ Path.text path)]
      let watch ← Run.withDisk fun disk => Watch.start disk path
      scanOnChanges settings r watch (← Run.look World.changes)
    | _ => throw [.said "--watch takes exactly one file"]

/-! ## Browsing -/

/-- The log of the browser, in the state directory of the workspace. -/
def logPath (root : String) : String :=
  Path.join (History.stateDirectory root) "spanlens.log"

/-- Opens the log of the browser. -/
def openLog (root : String) : Run Unit := do
  let directory := History.stateDirectory root
  Run.changeDisk fun disk =>
    Fault.during ("failed to create log directory " ++ Path.text directory)
      (disk.makeDirectories directory)
  let log := logPath root
  Run.changeDisk fun disk =>
    if disk.isFile log then .ok disk
    else Fault.during ("failed to open log file " ++ Path.text log) (disk.writeText log "")

/-- Browses a file.  The browser needs a terminal, and there is none. -/
def openBrowser (settings : Settings) (r : BrowseRequest) : Run Unit := do
  let root ← workspace
  openLog root
  let path ← fullPath r.path
  let request : Browser.Request :=
    { path := path
      fileId := r.fileId
      hint := settings.detector.hintFor r.language r.path
      root := root
      watches := !r.noWatch
      settings := settings }
  let _ ← Run.withDisk fun disk => Browser.start disk request
  throw [.said "failed to enable raw mode", .said "there is no terminal"]

/-! ## Storing -/

/-- Stores a file. -/
def store (settings : Settings) (r : UploadRequest) : Run Unit := do
  let path ← fullPath r.path
  let text ← readSource path
  let name := r.name.getD (Path.shownName path)
  let client := settings.service.client
  let w ← get
  let (session, stored) :=
    (sessionFor settings none path).upload (Run.answerOf client w w.requests.length) name text
  Run.sent client session.broker.calls
  match stored with
  | .error failure => throw [.said ("failed to upload " ++ Path.text path), .service failure]
  | .ok file =>
    let root ← workspace
    let history ← loadHistory root
    saveHistory root (history.remember path file.id)
    Run.print (file.id ++ "\t" ++ file.name ++ "\n")

/-! ## Explaining -/

/-- What a file is stored as: what is said on the command line, or what is remembered. -/
def storedAs (path : String) : Option String → Run String
  | some fileId => pure fileId
  | none => do
    let history ← loadHistory (← workspace)
    match history.fileId? path with
    | some fileId => pure fileId
    | none =>
      throw
        [.said
          (Path.text path ++
            " has not been uploaded; pass --file-id or run \x60spanlens upload\x60 first")]

/-- Selects the definition that is to be explained. -/
def selectFor (r : AnnotateRequest) (s : Session) : Except Report Session :=
  let chosen := match r.line, r.name with
    | some line, _ => (s.selectLine line).mapError Selection.Failure.message
    | none, some name => (s.selectName name).mapError Selection.Failure.message
    | none, none => .error "pass --line or --name"
  match chosen with
  | .ok (s, _) => .ok s
  | .error message => .error [.said message]

/-- Has a demand met by the service, and gives the text.  The broker makes all the requests of the
run, so that its log numbers them. -/
def meet (client : Service.Client) (staleness : String) (before : Broker)
    (demanded : Broker × Ticket) : Run (Broker × String) := do
  let w ← get
  let (broker, outcome) := Broker.conclude (Run.answerOf client w) demanded
  Run.sent client (broker.calls.drop before.calls.length)
  let resolution ← expect outcome
  match resolution.text? with
  | some text => return (broker, text)
  | none => throw [.said staleness]

/-- Explains a definition. -/
def explain (settings : Settings) (r : AnnotateRequest) : Run Unit := do
  let path ← fullPath r.path
  let text ← readSource path
  let fileId ← storedAs path r.fileId
  let client := settings.service.client
  let session := (sessionFor settings r.language path).loadFile fileId text
  let session ← Run.lift (selectFor r session)
  match session.request with
  | .error obstacle => throw [.said obstacle.message]
  | .ok request =>
    let before := session.broker
    let (broker, current) ← meet client "file changed while the annotation was requested" before
      (before.resolve request.definition request.fileId)
    Run.print (current ++ "\n")
    if r.more then
      let (_, detail) ← meet client "file changed while the detail was requested" broker
        (broker.sayMore request.definition request.fileId current)
      Run.print ("\n" ++ detail ++ "\n")

/-! ## Stored files -/

/-- Lists the stored files. -/
def listStored (settings : Settings) : Run Unit := do
  let files ← expect (← Run.call settings.service.client Service.listFiles)
  Run.print (String.join (files.map fun f =>
    f.id ++ "\t" ++ f.name ++ "\t" ++ f.createdAt.getD "-" ++ "\n"))

/-- Deletes a stored file, and forgets it. -/
def deleteStored (settings : Settings) (fileId : String) : Run Unit := do
  match ← Run.call settings.service.client (Service.deleteFile fileId) with
  | .error failure => throw [.said ("failed to delete " ++ fileId), .service failure]
  | .ok () =>
    let root ← workspace
    let history ← loadHistory root
    if history.mentions fileId then saveHistory root (history.forget fileId)
    Run.print ("deleted " ++ fileId ++ "\n")

/-! ## Completions -/

/-- What a shell needs to complete the names of the commands. -/
def completionScript (shell : String) : String :=
  let names := " ".intercalate (usage.commands.map (·.1))
  match shell with
  | "bash" => "complete -W \"" ++ names ++ "\" spanlens\n"
  | "zsh" => "compctl -k \"(" ++ names ++ ")\" spanlens\n"
  | _ => "complete -c spanlens -f -a \"" ++ names ++ "\"\n"

end Command

/-- The run of the program for a command line. -/
def CommandLine.run (c : CommandLine) : Run Unit := do
  let w ← get
  let settings ← Run.lift (Settings.load w.disk w.env c.settings)
  match c.command with
  | .detect r => Command.list settings r
  | .browse r => Command.openBrowser settings r
  | .upload r => Command.store settings r
  | .annotate r => Command.explain settings r
  | .listFiles => Command.listStored settings
  | .deleteFile fileId => Command.deleteStored settings fileId
  | .completions shell => Run.print (Command.completionScript shell)

/-- What the program does with some words: what is wrong with them, or how the run that they stand for
leaves the world and whether it failed. -/
def CommandLine.execute (words : List String) (w : World) :
    Except Refusal (Except Report Unit × World) :=
  (CommandLine.read words).map fun c => (c.run.run).run w

end CodeGloss
