import CodeGloss.Cause
import CodeGloss.Json.Reader
import CodeGloss.Json.Writer
import CodeGloss.Table

/-!
# History

What is remembered in a workspace between runs: under which identity each source was last uploaded,
and where the divider of the browser stood.  The history is a JSON file below the root of the
workspace.  Its uploads are a table by the texts of their paths, and writing it and reading it again
gives it back.
-/

namespace CodeGloss

/-- What is remembered of a workspace. -/
structure History where
  /-- The identity of each uploaded source, by the text of its path. -/
  uploads : Table String := []
  /-- The share of the screen that the code has, in percent. -/
  splitPercent : Option Nat := none
deriving DecidableEq, Repr, Inhabited

namespace History

/-! ## Uploads -/

/-- The identity under which a path was uploaded.  Uploads are looked up by the text of their path. -/
def fileId? (h : History) (path : String) : Option String :=
  Table.get? h.uploads (Path.text path)

/-- The history with an upload. -/
def remember (h : History) (path fileId : String) : History :=
  { h with uploads := Table.insert (Path.text path) fileId h.uploads }

/-- The history without the uploads of an identity. -/
def forget (h : History) (fileId : String) : History :=
  { h with uploads := h.uploads.filter fun u => u.2 != fileId }

/-- Whether a path was uploaded under an identity. -/
def mentions (h : History) (fileId : String) : Bool :=
  h.uploads.any fun u => u.2 == fileId

/-! ## As text -/

open Json

/-- The share of the screen is below this number. -/
def percentLimit : Nat := 0x10000

/-- A history as a record. -/
def toJson (h : History) : Value :=
  .object
    [(some "uploads", .object (h.uploads.map fun u => (some u.1, .string (some u.2)))),
      (some "split_percent", match h.splitPercent with
        | some n => .natural n
        | none => .null)]

/-- Reads the uploads.  Of several under one path the last one counts. -/
def uploadsOf? : Value → Option (Table String)
  | .object members =>
    members.foldlM
      (fun uploads m => do
        let path ← m.1
        let fileId ← m.2.text?
        some (Table.insert path fileId uploads))
      []
  | _ => none

/-- Reads a history. -/
def ofJson? (v : Value) : Option History := do
  match ← v.fields? ["uploads", "split_percent"] 2 with
  | [some uploads, percent] =>
    let uploads ← uploadsOf? uploads
    let percent ← match percent with
      | none => some none
      | some p => p.optional? (Value.naturalBelow? percentLimit)
    some ⟨uploads, percent⟩
  | _ => none

/-- The text of a history. -/
def write (h : History) : String :=
  Json.write h.toJson

/-- The history that a text spells. -/
def read? (text : String) : Option History :=
  (Json.read? text).bind ofJson?

/-! ## On disk -/

/-- The directory of what is kept in a workspace. -/
def stateDirectory (root : String) : String :=
  Path.join root ".spanlens"

/-- The path of the history. -/
def path (root : String) : String :=
  Path.join (stateDirectory root) "session.json"

/-- The history of a workspace, if it has one. -/
def load (disk : Disk) (root : String) : Except Report (Option History) := do
  let file := path root
  if !disk.has file then return none
  let text ← Fault.during ("failed to read history file at " ++ Path.text file)
    (disk.readText file)
  match read? text with
  | some h => return some h
  | none => throw [.said ("invalid history data in " ++ Path.text file), .malformed .json]

/-- The history of a workspace, empty if there is none. -/
def loadOrEmpty (disk : Disk) (root : String) : Except Report History :=
  (load disk root).map fun h => h.getD {}

/-- The disk with the history of a workspace saved. -/
def save (disk : Disk) (root : String) (h : History) : Except Report Disk := do
  let file := path root
  let directory := stateDirectory root
  let disk ← Fault.during ("failed to create state directory " ++ Path.text directory)
    (disk.makeDirectories directory)
  Fault.during ("failed to write history file to " ++ Path.text file)
    (disk.writeText file h.write)

end History
end CodeGloss
