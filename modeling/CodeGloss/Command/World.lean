import CodeGloss.Cause
import CodeGloss.Service.Inquiry
import CodeGloss.Settings

/-!
# Runs

What a run of the program has to do with the rest of the world: it reads and writes files, sends
requests, prints, and may have to wait for a file to change.  A run that fails says why, and what it
has done until then stays done.
-/

namespace CodeGloss

/-- The world of a run. -/
structure World where
  /-- The files. -/
  disk : Disk
  /-- The variables of the environment. -/
  env : Environment := []
  /-- What the server replies to the request of a number, if anything. -/
  server : Nat → Service.Request → Option Service.Reply := fun _ _ => none
  /-- What others write to which files while the run is waiting, in order. -/
  changes : List (String × ByteArray) := []
  /-- The requests that have been sent. -/
  requests : List Service.Request := []
  /-- What has been printed. -/
  printed : String := ""

/-- A run that ends with an `α` or fails. -/
abbrev Run (α : Type) := ExceptT Report (StateM World) α

namespace Run

/-- The run that only looks at the world. -/
def look (f : World → α) : Run α := do
  return f (← get)

/-- The run that does something that may fail and changes nothing. -/
def lift (r : Except Report α) : Run α :=
  liftExcept r

/-- The run that looks at the files. -/
def withDisk (f : Disk → Except Report α) : Run α := do
  let w ← get
  liftExcept (f w.disk)

/-- The run that changes the files. -/
def changeDisk (f : Disk → Except Report Disk) : Run Unit := do
  let w ← get
  let disk ← liftExcept (f w.disk)
  set { w with disk }

/-- The run that prints a text. -/
def print (text : String) : Run Unit :=
  modify fun w => { w with printed := w.printed ++ text }

/-- The run that makes a call to the service. -/
def call (client : Service.Client) (c : Service.Call α) : Run (Except Service.Failure α) := do
  match c.request? client with
  | none => return .error (.transport "no request could be made")
  | some request =>
    let w ← get
    set { w with requests := w.requests ++ [request] }
    return c.outcome (w.server w.requests.length request)

/-- The answer to an inquiry that would be the request of a number. -/
def answerOf (client : Service.Client) (w : World) (n : Nat) (inquiry : Service.Inquiry) :
    Service.Answer :=
  match inquiry.request? client with
  | none => .failed (.transport "no request could be made")
  | some request => inquiry.answer (w.server n request)

/-- The run that notes inquiries as requests that have been sent. -/
def sent (client : Service.Client) (inquiries : List Service.Inquiry) : Run Unit :=
  modify fun w => { w with requests := w.requests ++ inquiries.filterMap (·.request? client) }

end Run
end CodeGloss
