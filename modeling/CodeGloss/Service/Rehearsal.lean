import CodeGloss.Service.Inquiry
import CodeGloss.Table

/-!
# Rehearsals of the annotation service

A stand-in for the service that answers at once and from what was prepared: the annotations of some
files, and the failures of some inquiries.  A new annotation is the code behind the identity of its
file in brackets, and stored files are numbered from zero.
-/

namespace CodeGloss
namespace Service

/-- What a stand-in for the service has been prepared for. -/
structure Rehearsal where
  /-- The annotations of files, by the identities of the files. -/
  glosses : Table (List Gloss) := []
  /-- Why no annotations can be listed. -/
  listFailure : Option Failure := none
  /-- Why no annotation can be made. -/
  generateFailure : Option Failure := none
  /-- Why no file can be stored. -/
  uploadFailure : Option Failure := none
  /-- The number of files that have been stored. -/
  stored : Nat := 0
deriving Repr, Inhabited

namespace Rehearsal

/-- The answer to an inquiry. -/
def answer (r : Rehearsal) : Inquiry → Answer
  | .list fileId =>
    match r.listFailure with
    | some f => .failed f
    | none => .glosses ((Table.get? r.glosses fileId).getD [])
  | .generate fileId code =>
    match r.generateFailure with
    | some f => .failed f
    | none => .text ("[" ++ fileId ++ "] " ++ code)
  | .upload name content =>
    match r.uploadFailure with
    | some f => .failed f
    | none =>
      if content.isEmpty then .failed (.validation "empty file")
      else
        .stored
          { id := "file-" ++ toString r.stored
            name := name
            fileName := some (name ++ ".txt")
            createdAt := none }

/-- The stand-in after an answer: a stored file counts. -/
def after (r : Rehearsal) : Answer → Rehearsal
  | .stored _ => { r with stored := r.stored + 1 }
  | _ => r

end Rehearsal

end Service
end CodeGloss
