import CodeGloss.Cause
import CodeGloss.Text.Quoted

/-!
# Watching a file

A watch on a file is told what happens to the entries of the file's directory and notes whether the
file has changed since it was last asked.  Writing to the path, creating it and moving something onto
it are changes; removing the file is not, and neither is anything that happens to other paths.
-/

namespace CodeGloss

/-- What happens to an entry. -/
inductive Event.Kind where
  /-- Its content or its name changes. -/
  | modify
  /-- It comes into being. -/
  | create
  /-- It ceases to be. -/
  | remove
  /-- It is looked at. -/
  | access
  /-- Something. -/
  | any
  /-- Something else. -/
  | other
deriving DecidableEq, Repr

/-- Something that happens to some paths. -/
structure Event where
  /-- What happens. -/
  kind : Event.Kind
  /-- To which paths. -/
  paths : List String
deriving DecidableEq, Repr

namespace Event

/-- Whether an event may leave a file with another content. -/
def Kind.changes : Kind → Bool
  | modify => true
  | create => true
  | any => true
  | _ => false

/-- Whether an event is a change to a file. -/
def isChangeTo (e : Event) (target : String) : Bool :=
  e.kind.changes && e.paths.any fun p => Path.same p target

end Event

/-- A watch on a file. -/
structure Watch where
  /-- The path of the file. -/
  path : String
  /-- Whether a change has come up that was not yet asked for. -/
  changed : Bool := false
deriving DecidableEq, Repr, Inhabited

namespace Watch

/-- A watch on the file that a path leads to. -/
def start (disk : Disk) (path : String) : Except Report Watch := do
  let file ← Fault.during ("failed to resolve " ++ Path.text path) (disk.canonical path)
  match Path.parent? file with
  | some _ => return { path := file }
  | none => throw [.said (Path.text file ++ " has no parent directory")]

/-- The watch after an event. -/
def notice (w : Watch) (e : Event) : Watch :=
  { w with changed := w.changed || e.isChangeTo w.path }

/-- Whether the file has changed since the last time this was asked, and the watch from then on. -/
def ask (w : Watch) : Bool × Watch :=
  (w.changed, { w with changed := false })

/-- How a watch is shown: with its path in quotes. -/
def shown (w : Watch) : String :=
  "SourceWatcher \x7b path: " ++ Text.quoted w.path ++ ", .. \x7d"

end Watch
end CodeGloss
