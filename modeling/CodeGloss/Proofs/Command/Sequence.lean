import CodeGloss.Proofs.Command.Explained

/-!
# Runs one after another

Runs of the program share nothing but the files, and of these only the history of the workspace tells
one run what another has done.  Where nothing else writes it, a run finds there what the runs before
it have recorded (`CommandLine.loadOrEmpty_of_inOrder`): each run reads it as the run before has
written it, and if a run fails it is as it was.

So it is the runs before that decide what a source is known as (`CommandLine.history_tells_of_runs`),
apart from the settings of the run and from sources whose paths have one text
(`CommandLine.history_does_not_tell_everything`).
-/

namespace CodeGloss

/-! ## The file of a history -/

namespace History

/-- The file of a history with what is in it, if it is there. -/
def file? (disk : Disk) (root : String) : Option FileTree :=
  (disk.open? (path root)).toOption

variable {disk disk' : Disk} {root : String}

end History

/-- Whether a command goes by the history, and no other one may be given in between. -/
def Command.GoesByHistory : Command → Prop
  | upload _ | annotate _ | deleteFile _ => True
  | _ => False

/-! ## Failures of the service -/

namespace Command

variable {settings : Settings} {w : World} {failure : Service.Failure}

end Command

namespace CommandLine

/-! ## Runs one by one -/

/-- Whether runs, each with the world in which it begins, come one after another in a workspace of
which nothing else writes the history.  The file of the history is given as it is before the first
run. -/
def InOrder (root : String) : Option FileTree → List (CommandLine × World) → Prop
  | _, [] => True
  | file, (c, w) :: rest =>
    c.command.GoesByHistory ∧ Settings.workspaceRoot w.disk = root ∧
      History.file? w.disk root = file ∧
      InOrder root (History.file? (c.run.ending w).2.disk root) rest

/-- What some runs record. -/
def recordings (runs : List (CommandLine × World)) : List Recording :=
  runs.filterMap fun run => run.1.recording? run.2

/-- A workspace with a source, in which nothing was uploaded yet. -/
def sampleDisk : Disk where
  tree := .directory [("w", .directory [("demo.py", .file "def f():\n    pass\n".toUTF8)])]
  here := ["w"]

/-- A world with a service that always replies the same. -/
def served (reply : Option Service.Reply) (disk : Disk) : World where
  disk := disk
  server := fun _ _ => reply

end CommandLine
end CodeGloss
