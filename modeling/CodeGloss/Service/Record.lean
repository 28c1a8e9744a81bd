import CodeGloss.Calendar
import CodeGloss.Json.Reader

/-!
# Records of the annotation service

What the service stores and how its replies spell it: files, and annotations by name.  Each record
is read from a JSON value field by field.
-/

namespace CodeGloss
namespace Service

/-- A source file that the service holds. -/
structure FileRecord where
  /-- The identity of the file. -/
  id : String
  /-- The name to show. -/
  name : String
  /-- The name under which it was uploaded. -/
  fileName : Option String
  /-- When it was uploaded, as the service writes it. -/
  createdAt : Option String
deriving DecidableEq, Repr, Inhabited

/-- When the file was uploaded, if the service wrote a timestamp. -/
def FileRecord.created? (r : FileRecord) : Option Calendar.Timestamp :=
  r.createdAt.bind Calendar.read?

/-- An annotation: a name and what is said about it. -/
structure Gloss where
  /-- The key of the annotated definition. -/
  name : String
  /-- The annotation itself. -/
  text : String
deriving DecidableEq, Repr, Inhabited

namespace Decode

open Json

/-- A field that may be missing or null. -/
def absentOr (read : Value → Option α) : Option Value → Option (Option α)
  | none => some none
  | some v => v.optional? read

/-- A list whose items are all read with `read`; a missing list is empty. -/
def listOr (read : Value → Option α) : Option Value → Option (List α)
  | none => some []
  | some v => v.items?.bind fun items => items.mapM read

/-- A file.  Its name falls back on the uploaded name and then on the identity. -/
def file? (v : Value) : Option FileRecord := do
  match ← v.fields? ["uuid", "item_name", "file_name", "created_at"] 1 with
  | [some uuid, itemName, fileName, createdAt] =>
    let id ← uuid.text?
    let itemName ← absentOr Value.text? itemName
    let fileName ← absentOr Value.text? fileName
    let createdAt ← absentOr Value.text? createdAt
    some ⟨id, (itemName <|> fileName).getD id, fileName, createdAt⟩
  | _ => none

/-- A list of files. -/
def files? (v : Value) : Option (List FileRecord) := do
  match ← v.fields? ["info"] 0 with
  | [info] => listOr file? info
  | _ => none

/-- A row of the annotation list: a name and a text, either of which may be missing. -/
def row? (v : Value) : Option (Option String × Option String) := do
  match ← v.fields? ["function_name", "annotation"] 0 with
  | [name, text] =>
    let name ← absentOr Value.text? name
    let text ← absentOr Value.text? text
    some (name, text)
  | _ => none

/-- The annotation that a row gives, if it has both a name and a text. -/
def gloss? : Option String × Option String → Option Gloss
  | (some name, some text) => if name.isEmpty || text.isEmpty then none else some ⟨name, text⟩
  | _ => none

/-- A list of annotations.  Incomplete rows are skipped. -/
def glosses? (v : Value) : Option (List Gloss) := do
  match ← v.fields? ["info"] 0 with
  | [info] => (listOr row? info).map fun rows => rows.filterMap gloss?
  | _ => none

/-- A newly made annotation. -/
def generated? (v : Value) : Option String := do
  match ← v.fields? ["annotation"] 1 with
  | [some text] => text.text?
  | _ => none

end Decode

end Service
end CodeGloss
