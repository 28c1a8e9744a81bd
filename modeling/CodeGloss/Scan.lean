import CodeGloss.Cause
import CodeGloss.Definition.Json
import CodeGloss.Detection
import CodeGloss.Files.Ignore
import CodeGloss.Json.Writer

/-!
# Scans

A scan reports the definitions in many files.  Files are named one by one or found below a directory,
where ignored and hidden files are passed over and only paths that fit a glob count, if globs are
given.  Files that are too large or not text are reported as skipped.  Reports are ordered by the
path that they show; reports that show the same path stay in the order in which the files were named.
-/

namespace CodeGloss

/-! ## Reports -/

/-- Why a file was not looked into. -/
inductive SkipReason where
  /-- It has too many bytes. -/
  | largeFile
  /-- It has a zero byte near its start. -/
  | binaryFile
deriving DecidableEq, Repr

namespace SkipReason

/-- The reason in words. -/
def words : SkipReason → String
  | largeFile => "file too large"
  | binaryFile => "binary file"

/-- The name of the reason. -/
def name : SkipReason → String
  | largeFile => "large-file"
  | binaryFile => "binary-file"

end SkipReason

/-- What a scan says about one file. -/
structure FileReport where
  /-- The path to show. -/
  path : String
  /-- The language that was looked for. -/
  language : Hint
  /-- Why the file was not looked into, if it was not. -/
  skipped : Option SkipReason
  /-- The definitions. -/
  definitions : List Definition
deriving DecidableEq, Repr

namespace FileReport

/-- The listing of a report. -/
def plain (r : FileReport) : String :=
  match r.skipped with
  | some reason => r.path ++ " (skipped: " ++ reason.words ++ ")\n"
  | none =>
    let lines := r.definitions.map fun d =>
      "  " ++ toString d.firstLine ++ "-" ++ toString d.lastLine ++ " " ++ d.kind.word ++ " " ++
        d.name ++ "\n"
    r.path ++ " (" ++ r.language.name ++ ")\n" ++
      if lines.isEmpty then "  (no definitions)\n" else String.join lines

/-- A report as a record. -/
def toJson (r : FileReport) : Json.Value :=
  .object <|
    [(some "path", .string (some r.path)), (some "language", .string (some r.language.name))] ++
      (match r.skipped with
        | some reason => [(some "skipped", .string (some reason.name))]
        | none => []) ++
      [(some "spans", .array (r.definitions.map Definition.toJson))]

/-- Some reports as text. -/
def writeJson (reports : List FileReport) : String :=
  Json.write (.array (reports.map toJson))

end FileReport

/-! ## Requests -/

/-- What to scan. -/
structure ScanRequest where
  /-- Files and directories. -/
  paths : List String
  /-- The patterns that files found below directories have to fit, unless there are none. -/
  globs : List String := []
  /-- The language of every file; otherwise it is told by the extension. -/
  language : Hint := none
  /-- The largest size of a file that is looked into. -/
  maxFileSize : Nat := 1024 * 1024
  /-- Whether hidden files below directories count. -/
  showHidden : Bool := false
deriving Repr

namespace Scan

/-- Whether bytes look like something else than text. -/
def isBinary (content : ByteArray) : Bool :=
  (content.extract 0 1024).toList.contains 0

/-- The report on one file. -/
def reportOn (options : Block.Options) (request : ScanRequest) (disk : Disk)
    (path shown : String) : Except Report FileReport := do
  let hint := request.language <|> Hint.ofPath path
  let bytes ← Fault.during ("failed to stat " ++ Path.text path) (disk.readBytes path)
  if request.maxFileSize < bytes.size then return ⟨shown, hint, some .largeFile, []⟩
  else if isBinary bytes then return ⟨shown, hint, some .binaryFile, []⟩
  else
    let text ← Fault.during ("failed to read " ++ Path.text path) (disk.readText path)
    return ⟨shown, hint, none, (Outline.ofText options hint text).definitions⟩

/-- The patterns of a request. -/
def readGlobs (globs : List String) : Except Report (List Glob) :=
  globs.mapM fun g =>
    match Glob.read? g with
    | some glob => .ok glob
    | none => .error [.said ("invalid glob '" ++ g ++ "'"), .malformed .glob]

/-- The files that one path of a request stands for, each with the text to show. -/
def filesAt (request : ScanRequest) (globs : List Glob) (disk : Disk) (path : String) :
    Except Report (List (String × String)) :=
  match disk.open? path with
  | .ok (.file _) => .ok [(path, Path.text path)]
  | .ok (.directory _) =>
    match disk.resolve path with
    | .error _ => .ok []
    | .ok place =>
      let below := (Ignore.filesBelow disk.tree request.showHidden place).map fun p =>
        "/".intercalate (p.drop place.length)
      let wanted := below.filter fun p => globs.isEmpty || globs.any fun g => g.isMatch false p
      .ok (wanted.map fun p => (Path.join path p, Path.text p))
  | .error _ => .error [.said ("path not found: " ++ Path.text path)]

end Scan

/-- The reports that a request asks for, ordered by path. -/
def ScanRequest.run (request : ScanRequest) (options : Block.Options) (disk : Disk) :
    Except Report (List FileReport) := do
  let globs ← Scan.readGlobs request.globs
  let files ← request.paths.mapM (Scan.filesAt request globs disk)
  let reports ← files.flatten.mapM fun f => Scan.reportOn options request disk f.1 f.2
  return reports.mergeSort fun a b => a.path ≤ b.path

end CodeGloss
