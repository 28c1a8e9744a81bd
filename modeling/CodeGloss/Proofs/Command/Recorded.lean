import CodeGloss.Command.Run
import CodeGloss.Proofs.History.OnDisk
import CodeGloss.Proofs.History.Recordings

/-!
# What runs record

A run that stores a file or deletes one loads the history when the service has done its part, and
saves it with one thing more in it.  So if it ends well, the history has what there is to record
(`CommandLine.recording?`), and if it does not, the files are as they were
(`CommandLine.loadOrEmpty_run`).
-/

namespace CodeGloss

/-! ## Runs step by step -/

namespace Run

variable {α β : Type}

/-- How a run ends, and the world that it leaves. -/
def ending (m : Run α) (w : World) : Except Report α × World :=
  m.run.run w

theorem ending_bind (m : Run α) (f : α → Run β) (w : World) :
    (m >>= f).ending w = match m.ending w with
      | (.ok a, w') => (f a).ending w'
      | (.error report, w') => (.error report, w') := by
  unfold ending ExceptT.run StateT.run
  simp only [bind, ExceptT.bind, ExceptT.mk, StateT.bind, ExceptT.bindCont]
  rcases m w with ⟨_ | _, _⟩ <;> rfl

@[simp] theorem ending_get (w : World) : (get : Run World).ending w = (.ok w, w) :=
  rfl

@[simp] theorem ending_look (f : World → α) (w : World) : (look f).ending w = (.ok (f w), w) :=
  rfl

@[simp] theorem ending_lift (r : Except Report α) (w : World) : (lift r).ending w = (r, w) := by
  cases r <;> rfl

@[simp] theorem ending_withDisk (f : Disk → Except Report α) (w : World) :
    (withDisk f).ending w = (f w.disk, w) := by
  unfold withDisk
  rw [ending_bind, ending_get]
  show (lift (f w.disk)).ending w = _
  rw [ending_lift]

@[simp] theorem ending_changeDisk (f : Disk → Except Report Disk) (w : World) :
    (changeDisk f).ending w =
      match f w.disk with
      | .ok disk => (.ok (), { w with disk })
      | .error report => (.error report, w) := by
  unfold changeDisk
  rw [ending_bind, ending_get]
  show ((lift (f w.disk) : Run Disk) >>= fun disk => set { w with disk }).ending w = _
  rw [ending_bind, ending_lift]
  cases f w.disk <;> rfl

@[simp] theorem ending_sent (client : Service.Client) (inquiries : List Service.Inquiry)
    (w : World) :
    (sent client inquiries).ending w =
      (.ok (), { w with requests := w.requests ++ inquiries.filterMap (·.request? client) }) :=
  rfl

/-- A call changes nothing but the list of requests. -/
theorem disk_ending_call (client : Service.Client) (c : Service.Call α) (w : World) :
    ∃ r w', (call client c).ending w = (.ok r, w') ∧ w'.disk = w.disk := by
  unfold call
  split
  · exact ⟨_, w, rfl, rfl⟩
  · exact ⟨_, _, rfl, rfl⟩

end Run

/-! ## Storing and deleting -/

namespace Command

variable {settings : Settings} {w : World} {root : String} {h : History}

/-- The path of a file that is to be stored, and the identity that the service gives it, if it can be
read and the service stores it. -/
def uploaded? (settings : Settings) (r : UploadRequest) (w : World) : Option (String × String) :=
  let path := (w.disk.canonical r.path).toOption.getD r.path
  match w.disk.readText path with
  | .error _ => none
  | .ok text =>
    let inquiry := .upload (r.name.getD (Path.shownName path)) text
    match (Run.answerOf settings.service.client w w.requests.length inquiry).toFile with
    | .error _ => none
    | .ok file => some (path, file.id)

/-- To save a history fails and changes nothing, or it is that history which is there then. -/
theorem ending_saveHistory (root : String) (sound : h.Sound) (w : World) :
    (∃ report, (saveHistory root h).ending w = (.error report, w)) ∨
      ∃ w', (saveHistory root h).ending w = (.ok (), w') ∧
        History.loadOrEmpty w'.disk root = .ok h := by
  simp only [saveHistory, Run.ending_changeDisk]
  cases saved : History.save w.disk root h with
  | error report => exact .inl ⟨report, rfl⟩
  | ok disk => exact .inr ⟨_, rfl, History.loadOrEmpty_of_save sound saved⟩

/-- A run that stores a file fails and leaves the files alone, or records what the service says. -/
theorem ending_store (r : UploadRequest) (here : Settings.workspaceRoot w.disk = root)
    (loaded : History.loadOrEmpty w.disk root = .ok h) :
    (∃ report w', (store settings r).ending w = (.error report, w') ∧ w'.disk = w.disk) ∨
      ∃ path fileId w', (store settings r).ending w = (.ok (), w') ∧
        uploaded? settings r w = some (path, fileId) ∧
        History.loadOrEmpty w'.disk root = .ok (h.remember path fileId) := by
  unfold uploaded?
  generalize path_eq : (w.disk.canonical r.path).toOption.getD r.path = path
  cases reads : w.disk.readText path with
  | error fault =>
    simp only [store, fullPath, readSource, Run.ending_bind, Run.ending_look, path_eq,
      Run.ending_withDisk, reads, Fault.during]
    exact .inl ⟨_, w, rfl, rfl⟩
  | ok text =>
    generalize name_eq : r.name.getD (Path.shownName path) = name
    simp only [store, fullPath, readSource, Run.ending_bind, Run.ending_look, path_eq, name_eq,
      Run.ending_withDisk, reads, Fault.during, Run.ending_get, Session.upload, Run.ending_sent]
    cases (Run.answerOf settings.service.client w w.requests.length (.upload name text)).toFile with
    | error failure => exact .inl ⟨_, _, rfl, rfl⟩
    | ok file =>
      have sound := (History.sound_of_loadOrEmpty loaded).remember path file.id
      simp only [workspace, loadHistory, Run.ending_bind, Run.ending_look, Run.ending_withDisk,
        here, loaded]
      rcases ending_saveHistory root sound _ with ⟨report, failed⟩ | ⟨w', saved, loaded'⟩
      · rw [failed]
        exact .inl ⟨report, _, rfl, rfl⟩
      · rw [saved]
        exact .inr ⟨path, file.id, _, rfl, rfl, loaded'⟩

/-- A run that deletes a stored file fails and leaves the files alone, or records the deletion. -/
theorem ending_deleteStored (fileId : String) (here : Settings.workspaceRoot w.disk = root)
    (loaded : History.loadOrEmpty w.disk root = .ok h) :
    (∃ report w', (deleteStored settings fileId).ending w = (.error report, w') ∧
        w'.disk = w.disk) ∨
      ∃ w', (deleteStored settings fileId).ending w = (.ok (), w') ∧
        History.loadOrEmpty w'.disk root = .ok (h.forget fileId) := by
  obtain ⟨r, w₁, called, disk⟩ :=
    Run.disk_ending_call settings.service.client (Service.deleteFile fileId) w
  simp only [deleteStored, Run.ending_bind, called]
  cases r with
  | error failure => exact .inl ⟨_, w₁, rfl, disk⟩
  | ok done =>
    rw [← disk] at here loaded
    simp only [workspace, loadHistory, Run.ending_bind, Run.ending_look, Run.ending_withDisk, here,
      loaded]
    have sound := (History.sound_of_loadOrEmpty loaded).forget fileId
    cases known : h.mentions fileId with
    | false =>
      right
      refine ⟨_, rfl, ?_⟩
      rw [History.forget_of_not_mentions known]
      exact loaded
    | true =>
      rcases ending_saveHistory root sound w₁ with ⟨report, failed⟩ | ⟨w', saved, loaded'⟩
      · left
        simp only [if_true, Run.ending_bind, failed]
        exact ⟨report, _, rfl, disk⟩
      · right
        simp only [if_true, Run.ending_bind, saved]
        exact ⟨_, rfl, loaded'⟩

end Command

/-- Whether a command is to record something. -/
def Command.Records : Command → Prop
  | upload _ | deleteFile _ => True
  | _ => False

namespace CommandLine

/-- What a run records.  A run that fails records nothing. -/
def recording? (c : CommandLine) (w : World) : Option Recording :=
  match (c.run.ending w).1, Settings.load w.disk w.env c.settings, c.command with
  | .ok (), .ok settings, .upload r =>
    (Command.uploaded? settings r w).map fun u => .upload u.1 u.2
  | .ok (), .ok _, .deleteFile fileId => some (.deletion fileId)
  | _, _, _ => none

section Endings

variable {file : Option String} {w : World} {settings : Settings}

theorem ending_run_of_unsettled {c : CommandLine} {report : Report}
    (read : Settings.load w.disk w.env c.settings = .error report) :
    c.run.ending w = (.error report, w) := by
  simp only [run, Run.ending_bind, Run.ending_get, Run.ending_lift, read]

variable (read : Settings.load w.disk w.env file = .ok settings)
include read

theorem ending_run_upload (r : UploadRequest) :
    (run ⟨file, .upload r⟩).ending w = (Command.store settings r).ending w := by
  simp only [run, Run.ending_bind, Run.ending_get, Run.ending_lift, read]

theorem ending_run_deleteFile (fileId : String) :
    (run ⟨file, .deleteFile fileId⟩).ending w =
      (Command.deleteStored settings fileId).ending w := by
  simp only [run, Run.ending_bind, Run.ending_get, Run.ending_lift, read]

end Endings

/-- **After a run the history has what the run records**, and if it records nothing, the history is
what it was. -/
theorem loadOrEmpty_run {c : CommandLine} (records : c.command.Records) {w : World} {root : String}
    {h : History} (here : Settings.workspaceRoot w.disk = root)
    (loaded : History.loadOrEmpty w.disk root = .ok h) :
    History.loadOrEmpty (c.run.ending w).2.disk root =
      .ok ((c.recording? w).elim h (Recording.apply h)) := by
  unfold recording?
  cases read : Settings.load w.disk w.env c.settings with
  | error report =>
    rw [ending_run_of_unsettled read]
    exact loaded
  | ok settings =>
    obtain ⟨file, command⟩ := c
    cases command with
    | upload r =>
      rw [ending_run_upload read]
      rcases Command.ending_store r here loaded with
        ⟨report, w', failed, disk⟩ | ⟨path, fileId, w', ended, uploaded, loaded'⟩
      · rw [failed]
        exact disk ▸ loaded
      · simp only [ended, uploaded]
        exact loaded'
    | deleteFile fileId =>
      rw [ending_run_deleteFile read]
      rcases Command.ending_deleteStored fileId here loaded with
        ⟨report, w', failed, disk⟩ | ⟨w', ended, loaded'⟩
      · rw [failed]
        exact disk ▸ loaded
      · rw [ended]
        exact loaded'
    | _ => exact absurd records id

end CommandLine
end CodeGloss
