import CodeGloss.Proofs.Browser.Surroundings
import CodeGloss.Proofs.Command.Recorded
import CodeGloss.Proofs.History.Copies

/-!
# A workspace with others in it

While a browser is open, other processes may store and delete files in the same workspace, and all of
them record in one history what they do.  Here a browser goes on step by step, and between any two
steps there may be a complete run of another process (`Browser.Happening`).

The history on disk is then the one that the memos of it all tell (`Browser.recorded_uploads_kept`),
so that everything recorded is there as long as the browser does not save after others have recorded
something.  When it does, uploads are lost and deletions undone
(`Browser.upload_lost_when_divider_moved`).
-/

namespace CodeGloss

/-! ## Memos of a browser -/

namespace Split

/-- Where the divider can be set can be remembered. -/
theorem clamp_lt_percentLimit (percent : Nat) : clamp percent < History.percentLimit := by
  have bound : clamp percent ≤ most := max_le (by decide) (min_le_left _ _)
  exact Nat.lt_of_le_of_lt bound (by decide)

@[simp] theorem percent_letGo (s : Split) : s.letGo.percent = s.percent := by
  unfold letGo
  split <;> rfl

theorem percent_dragTo_lt {s : Split} (small : s.percent < History.percentLimit) (a : Area)
    (row : Nat) : (s.dragTo a row).percent < History.percentLimit := by
  unfold dragTo
  split
  · exact small
  · exact clamp_lt_percentLimit _

end Split

namespace Surroundings

/-- The memo of a save, unless it fails. -/
def memosOfSave (s : Surroundings) : List Memo :=
  if (History.save s.disk s.root s.history).isOk then [.saved] else []

/-- The memos of what the browser does when it remembers where its divider stands. -/
def memosOfSplit (s : Surroundings) : List Memo :=
  .placed s.split.percent ::
    { s with history := { s.history with splitPercent := some s.split.percent } }.memosOfSave

/-- The divider that is remembered in an event, if one is. -/
def remembered? (s : Surroundings) : Browser.Event → Option Split
  | .key (.char '+') false | .key (.char '=') false => some s.split.grow
  | .key (.char '-') false => some s.split.shrink
  | .mouse .release _ => if s.split.grips = 0 then none else some s.split.letGo
  | _ => none

/-- The memos of an event. -/
def memosOfEvent (s : Surroundings) (e : Browser.Event) : List Memo :=
  match s.remembered? e with
  | some split => { s with split }.memosOfSplit
  | none => []

/-- The memos of a delivery. -/
def memosOfDelivery (s : Surroundings) : Delivery → List Memo
  | .upload (.ok file) =>
    .stored s.path file.id ::
      { s with history := s.history.remember s.path file.id }.memosOfSave
  | _ => []

/-- The memos of some deliveries. -/
def memosOfDeliveries (s : Surroundings) : List Delivery → List Memo
  | [] => []
  | d :: rest => s.memosOfDelivery d ++ (s.receive d).memosOfDeliveries rest

/-- Whether the copy of the history that the browser has and the one on disk are as they should be. -/
structure Agrees (s : Surroundings) (root : String) (c : Copies) : Prop where
  root_eq : s.root = root
  browser : s.history = c.browser
  sound : c.browser.Sound
  disk : History.loadOrEmpty s.disk root = .ok c.disk
  percent : s.split.percent < History.percentLimit

variable {s : Surroundings} {root : String} {c : Copies}

theorem Agrees.saved (h : s.Agrees root c) : s.saved.Agrees root (c.noteAll s.memosOfSave) := by
  obtain ⟨root_eq, browser, sound, disk, percent⟩ := h
  rcases s.saved_cases with ⟨disk', save, eq⟩ | ⟨⟨report, save⟩, eq⟩
  · rw [memosOfSave, save, eq]
    rw [browser, root_eq] at save
    exact ⟨root_eq, browser, sound, History.loadOrEmpty_of_save sound save, percent⟩
  · rw [memosOfSave, save, eq]
    exact ⟨root_eq, browser, sound, disk, percent⟩

theorem Agrees.splitRemembered (h : s.Agrees root c) :
    s.splitRemembered.Agrees root (c.noteAll s.memosOfSplit) := by
  obtain ⟨root_eq, browser, sound, disk, percent⟩ := h
  refine Agrees.saved (c := c.note (.placed s.split.percent)) ⟨root_eq, ?_, ?_, disk, percent⟩
  · rw [browser]
    rfl
  · refine ⟨sound.ordered, fun n mem => ?_⟩
    cases mem
    exact percent

theorem Agrees.receive (h : s.Agrees root c) (d : Delivery) :
    (s.receive d).Agrees root (c.noteAll (s.memosOfDelivery d)) := by
  cases d with
  | upload result =>
    cases result with
    | ok file =>
      obtain ⟨root_eq, browser, sound, disk, percent⟩ := h
      refine Agrees.saved (c := c.note (.stored s.path file.id)) ⟨root_eq, ?_, ?_, disk, percent⟩
      · rw [browser]
        rfl
      · exact sound.remember s.path file.id
    | error failure => exact h
  | _ => exact h

theorem Agrees.receiveAll (h : s.Agrees root c) (ds : List Delivery) :
    (ds.foldl Surroundings.receive s).Agrees root (c.noteAll (s.memosOfDeliveries ds)) := by
  induction ds generalizing s c with
  | nil => exact h
  | cons d rest ih =>
    rw [List.foldl_cons, memosOfDeliveries, Copies.noteAll_append]
    exact ih (h.receive d)

/-- What a divider is like that is remembered in an event, and that nothing else happens then. -/
theorem handle_of_remembered? {e : Browser.Event} {split : Split}
    (eq : s.remembered? e = some split) (small : s.split.percent < History.percentLimit) :
    s.handle e = { s with split }.splitRemembered ∧ split.percent < History.percentLimit := by
  unfold remembered? at eq
  split at eq
  case h_4 =>
    split at eq
    next => cases eq
    next held =>
      cases eq
      exact ⟨if_neg held, by rwa [Split.percent_letGo]⟩
  case h_5 => cases eq
  all_goals
    cases eq
    exact ⟨rfl, Split.clamp_lt_percentLimit _⟩

/-- Neither copy is touched by what becomes of the divider. -/
theorem Agrees.withSplit (h : s.Agrees root c) {split : Split}
    (small : split.percent < History.percentLimit) : { s with split }.Agrees root c :=
  ⟨h.root_eq, h.browser, h.sound, h.disk, small⟩

/-- If no divider is remembered in an event, neither copy is touched. -/
theorem agrees_handle_of_not_remembered? (h : s.Agrees root c) {e : Browser.Event}
    (eq : s.remembered? e = none) : (s.handle e).Agrees root c := by
  have letGo : ∀ {split : Split}, split.percent = s.split.percent →
      split.letGo.percent < History.percentLimit := by
    intro split same
    rw [Split.percent_letGo, same]
    exact h.percent
  cases e with
  | key k control =>
    cases control with
    | true => exact h
    | false =>
      have same : s.handle (.key k false) = s := by
        show s.handleKey k = s
        unfold handleKey
        split
        case h_4 => rfl
        all_goals cases eq
      rw [same]
      exact h
  | mouse a row =>
    simp only [Surroundings.handle]
    cases a with
    | press =>
      unfold handleMouse
      dsimp only
      split
      · refine h.withSplit ?_
        split
        · exact h.percent
        · exact letGo rfl
      · exact h
    | drag =>
      unfold handleMouse
      dsimp only
      split
      · exact h
      · exact h.withSplit (Split.percent_dragTo_lt h.percent _ _)
    | release =>
      have free : s.split.grips = 0 := by
        by_contra held
        simp only [remembered?, if_neg held] at eq
        cases eq
      rw [handleMouse, if_pos free]
      exact h
    | _ => exact h
  | focusLost => exact h.withSplit (letGo rfl)
  | other => exact h

theorem Agrees.handle (h : s.Agrees root c) (e : Browser.Event) :
    (s.handle e).Agrees root (c.noteAll (s.memosOfEvent e)) := by
  unfold memosOfEvent
  cases eq : s.remembered? e with
  | none => exact agrees_handle_of_not_remembered? h eq
  | some split =>
    obtain ⟨handled, small⟩ := handle_of_remembered? eq h.percent
    rw [handled]
    exact (h.withSplit small).splitRemembered

end Surroundings

namespace Browser

/-! ## Happenings in a workspace -/

/-- What can happen in a workspace while a browser is open in it. -/
inductive Happening where
  /-- The browser goes on. -/
  | step (step : Step)
  /-- The browser is closed. -/
  | close
  /-- Another process runs for a command, in a world of its own but for the files. -/
  | run (command : CommandLine) (w : World)

/-- The world of another process, with the files of the browser. -/
def sharedWith (b : Browser) (w : World) : World :=
  { w with disk := { b.disk with here := w.disk.here } }

/-- The browser after something has happened. -/
def undergo (b : Browser) : Happening → Browser
  | .step step => b.take step
  | .close => b.saveHistory
  | .run command w =>
    let disk := (command.run.ending (b.sharedWith w)).2.disk
    { b with disk := { disk with here := b.disk.here } }

/-- The browser after some things have happened. -/
def undergoAll (hs : List Happening) (b : Browser) : Browser :=
  hs.foldl undergo b

/-- The memos of a step. -/
def memosOfStep (b : Browser) : Step → List Memo
  | .event e => b.surroundings.memosOfEvent e
  | .tick => b.surroundings.memosOfDeliveries b.deliveries
  | .receive n => (b.deliveries[n]?).elim [] b.surroundings.memosOfDelivery
  | _ => []

/-- The memos of something that happens. -/
def memos (b : Browser) : Happening → List Memo
  | .step step => b.memosOfStep step
  | .close => b.surroundings.memosOfSave
  | .run command w => (command.recording? (b.sharedWith w)).toList.map .recorded

/-- The memos of some things that happen. -/
def memosAll : List Happening → Browser → List Memo
  | [], _ => []
  | h :: rest, b => b.memos h ++ memosAll rest (b.undergo h)

/-- Whether something happens in a workspace: other processes store or delete files in it, and when
files change in another way the history does not. -/
def Concerns (b : Browser) (root : String) : Happening → Prop
  | .step (.edit disk) => History.loadOrEmpty disk root = History.loadOrEmpty b.disk root
  | .run command w =>
    command.command.Records ∧ Settings.workspaceRoot (b.sharedWith w).disk = root
  | _ => True

/-- Whether everything happens in a workspace. -/
def ConcernsAll (root : String) : List Happening → Browser → Prop
  | [], _ => True
  | h :: rest, b => b.Concerns root h ∧ ConcernsAll root rest (b.undergo h)

section Agreement

variable {b : Browser} {root : String} {c : Copies}

theorem agrees_take (agrees : b.surroundings.Agrees root c) {step : Step}
    (concerns : b.Concerns root (.step step)) :
    (b.take step).surroundings.Agrees root (c.noteAll (b.memosOfStep step)) := by
  cases step with
  | event e =>
    simp only [take, b.surroundings_handle]
    exact agrees.handle e
  | edit disk =>
    exact ⟨agrees.root_eq, agrees.browser, agrees.sound, concerns.trans agrees.disk, agrees.percent⟩
  | tick =>
    simp only [take, b.surroundings_tick]
    exact agrees.receiveAll b.deliveries
  | work n supply =>
    simp only [take, b.surroundings_workOn]
    exact agrees
  | receive n =>
    simp only [take, receiveAt, memosOfStep]
    cases b.deliveries[n]? with
    | none => exact agrees
    | some delivery =>
      rw [surroundings_receive]
      exact agrees.receive delivery
  | _ => exact ⟨agrees.root_eq, agrees.browser, agrees.sound, agrees.disk, agrees.percent⟩

/-- What happens in a workspace is told by its memos. -/
theorem agrees_undergo (agrees : b.surroundings.Agrees root c)
    (absolute : Path.isAbsolute root = true) {h : Happening} (concerns : b.Concerns root h) :
    (b.undergo h).surroundings.Agrees root (c.noteAll (b.memos h)) := by
  cases h with
  | step step => exact agrees_take agrees concerns
  | close =>
    simp only [undergo, surroundings_saveHistory]
    exact agrees.saved
  | run command w =>
    obtain ⟨records, here⟩ := concerns
    obtain ⟨root_eq, browser, sound, disk, percent⟩ := agrees
    have loaded : History.loadOrEmpty (b.sharedWith w).disk root = .ok c.disk := by
      rw [← disk]
      exact History.loadOrEmpty_congr rfl absolute
    have after := CommandLine.loadOrEmpty_run records here loaded
    have shared : History.loadOrEmpty (b.undergo (.run command w)).disk root =
        History.loadOrEmpty (command.run.ending (b.sharedWith w)).2.disk root :=
      History.loadOrEmpty_congr rfl absolute
    rw [after] at shared
    simp only [memos]
    cases eq : command.recording? (b.sharedWith w) with
    | none =>
      rw [eq] at shared
      exact ⟨root_eq, browser, sound, shared, percent⟩
    | some r =>
      rw [eq] at shared
      exact ⟨root_eq, browser, sound, shared, percent⟩

theorem agrees_undergoAll (agrees : b.surroundings.Agrees root c)
    (absolute : Path.isAbsolute root = true) {hs : List Happening}
    (concerns : b.ConcernsAll root hs) :
    (b.undergoAll hs).surroundings.Agrees root (c.noteAll (b.memosAll hs)) := by
  induction hs generalizing b c with
  | nil => exact agrees
  | cons h rest ih =>
    rw [memosAll, Copies.noteAll_append]
    exact ih (agrees_undergo agrees absolute concerns.1) concerns.2

end Agreement

theorem agrees_start {disk : Disk} {request : Request} {b : Browser}
    (started : Browser.start disk request = .ok b) :
    ∃ before, History.loadOrEmpty disk request.root = .ok before ∧
      b.surroundings.Agrees request.root ⟨before, before⟩ := by
  obtain ⟨before, loaded, eq⟩ := surroundings_start started
  refine ⟨before, loaded, ?_⟩
  rw [eq]
  exact ⟨rfl, rfl, History.sound_of_loadOrEmpty loaded, loaded, Split.clamp_lt_percentLimit _⟩

/-- **What the history on disk is.**  Whatever happens in a workspace while a browser is open in it,
the history on disk can be loaded, and it is the one that the memos tell.  If the browser saves at
once what it is told, and nothing after others have recorded something, each path is known under the
identity of its last upload by either side, unless that was deleted since then. -/
theorem recorded_uploads_kept {disk : Disk} {request : Request} {b : Browser}
    (started : Browser.start disk request = .ok b)
    (absolute : Path.isAbsolute request.root = true) {hs : List Happening}
    (concerns : b.ConcernsAll request.root hs) :
    ∃ before after, History.loadOrEmpty disk request.root = .ok before ∧
      History.loadOrEmpty (b.undergoAll hs).disk request.root = .ok after ∧
      after = (Copies.noteAll (b.memosAll hs) ⟨before, before⟩).disk ∧
      (Memo.savedAtOnce (b.memosAll hs) = true → Memo.InTime (b.memosAll hs) →
        ∀ path fileId, after.fileId? path = some fileId ↔
          Recording.IsLast ((Memo.recordings (b.memosAll hs)).map Recording.keyed)
              (Path.text path) fileId ∨
            before.fileId? path = some fileId ∧
              Recording.Undisturbed ((Memo.recordings (b.memosAll hs)).map Recording.keyed)
                (Path.text path) fileId) := by
  obtain ⟨before, loaded, agrees⟩ := agrees_start started
  have agrees := agrees_undergoAll agrees absolute concerns
  refine ⟨before, _, loaded, agrees.disk, rfl, fun atOnce inTime path fileId => ?_⟩
  have same := Copies.uploads_noteAll _ atOnce inTime (c := ⟨before, before⟩) rfl
  rw [← Recording.fileId?_applyAll_eq_some_iff (History.sound_of_loadOrEmpty loaded)]
  simp only [History.fileId?, same]

/-- A workspace with two sources.  Another one was uploaded. -/
def sampleDisk : Disk where
  tree := .directory [("w", .directory
    [("demo.py", .file "def f():\n    pass\n".toUTF8), ("other.py", .file "x = 1\n".toUTF8),
      (".spanlens", .directory [("session.json", .file
        "\x7b\"uploads\": \x7b\"/w/old.py\": \"id-1\"\x7d\x7d".toUTF8)])])]
  here := ["w"]

/-- A world with a service that stores everything under one identity, and deletes everything. -/
def sampleWorld : World where
  disk := sampleDisk
  server := fun _ _ => some ⟨200, "\x7b\"uuid\": \"id-2\"\x7d"⟩

/-- Here another process stores a file after the browser has saved for the last time, and both
uploads are kept. -/
theorem both_uploads_kept :
    let request : Request := { path := "/w/demo.py", root := "/w", watches := false }
    let stored : Service.Answer := .stored ⟨"id-3", "demo.py", none, none⟩
    let hs : List Happening :=
      [.step (.event (.key (.char 'u') false)), .step (.work 0 fun _ _ => some stored),
        .step (.receive 0), .run ⟨none, .upload ⟨"other.py", none⟩⟩ sampleWorld]
    ∃ b, Browser.start sampleDisk request = .ok b ∧
      Memo.savedAtOnce (b.memosAll hs) = true ∧ Memo.InTime (b.memosAll hs) ∧
      Recording.IsLast (Memo.recordings (b.memosAll hs)) "/w/demo.py" "id-3" ∧
      Recording.IsLast (Memo.recordings (b.memosAll hs)) "/w/other.py" "id-2" ∧
      ∃ before after, History.loadOrEmpty sampleDisk request.root = .ok before ∧
        History.loadOrEmpty (b.undergoAll hs).disk request.root = .ok after ∧
        after = (Copies.noteAll (b.memosAll hs) ⟨before, before⟩).disk ∧
        (Memo.savedAtOnce (b.memosAll hs) = true → Memo.InTime (b.memosAll hs) →
          ∀ path fileId, after.fileId? path = some fileId ↔
            Recording.IsLast ((Memo.recordings (b.memosAll hs)).map Recording.keyed)
                (Path.text path) fileId ∨
              before.fileId? path = some fileId ∧
                Recording.Undisturbed ((Memo.recordings (b.memosAll hs)).map Recording.keyed)
                  (Path.text path) fileId) := by
  intro request stored hs
  have run : (Browser.start sampleDisk request).toOption.map (fun b =>
      (Settings.workspaceRoot ((b.undergoAll (hs.take 3)).sharedWith sampleWorld).disk,
        b.memosAll hs)) =
      some ("/w", [.stored "/w/demo.py" "id-3", .saved,
        .recorded (.upload "/w/other.py" "id-2")]) := by
    decide +kernel
  obtain ⟨b, started, eq⟩ := exists_start_of_map run
  obtain ⟨here, memos⟩ := Prod.mk.inj eq
  have concerns : b.ConcernsAll request.root hs :=
    ⟨trivial, trivial, trivial, ⟨trivial, here⟩, trivial⟩
  refine ⟨b, started, ?_, ?_, ?_, ?_, recorded_uploads_kept started (by decide) concerns⟩
  · rw [memos]
    rfl
  · rw [memos]
    simp [Memo.InTime]
  · rw [memos]
    exact ⟨[], [.upload "/w/other.py" "id-2"], rfl, by simp [Recording.Undisturbed]⟩
  · rw [memos]
    exact ⟨[.upload "/w/demo.py" "id-3"], [], rfl, by simp [Recording.Undisturbed]⟩

/-- **Uploads can be lost.**  Another process deletes the one stored file and stores another one.  When
the divider is moved then, the deletion is undone and the upload is gone. -/
theorem upload_lost_when_divider_moved :
    ∃ (disk : Disk) (request : Request) (b : Browser) (hs : List Happening) (after : History),
      Browser.start disk request = .ok b ∧ Path.isAbsolute request.root = true ∧
        b.ConcernsAll request.root hs ∧
        History.loadOrEmpty (b.undergoAll hs).disk request.root = .ok after ∧
        Memo.recordings (b.memosAll hs) = [.deletion "id-1", .upload "/w/other.py" "id-2"] ∧
        after.fileId? "/w/old.py" = some "id-1" ∧ after.fileId? "/w/other.py" = none := by
  let request : Request := { path := "/w/demo.py", root := "/w", watches := false }
  let hs : List Happening :=
    [.run ⟨none, .deleteFile "id-1"⟩ sampleWorld,
      .run ⟨none, .upload ⟨"other.py", none⟩⟩ sampleWorld,
      .step (.event (.key (.char '+') false))]
  have run : (Browser.start sampleDisk request).toOption.map (fun b =>
      (Settings.workspaceRoot (b.sharedWith sampleWorld).disk,
        Settings.workspaceRoot ((b.undergoAll (hs.take 1)).sharedWith sampleWorld).disk,
        Memo.recordings (b.memosAll hs),
        (History.loadOrEmpty (b.undergoAll hs).disk request.root).toOption)) =
      some ("/w", "/w", [.deletion "id-1", .upload "/w/other.py" "id-2"],
        some ⟨[("/w/old.py", "id-1")], some 75⟩) := by
    decide +kernel
  obtain ⟨b, started, eq⟩ := exists_start_of_map run
  obtain ⟨here, eq⟩ := Prod.mk.inj eq
  obtain ⟨here', eq⟩ := Prod.mk.inj eq
  obtain ⟨recordings, eq⟩ := Prod.mk.inj eq
  cases loaded : History.loadOrEmpty (b.undergoAll hs).disk request.root with
  | error report =>
    rw [loaded] at eq
    cases eq
  | ok after =>
    rw [loaded] at eq
    cases eq
    exact ⟨sampleDisk, request, b, hs, _, started, by decide,
      ⟨⟨trivial, here⟩, ⟨trivial, here'⟩, trivial, trivial⟩, loaded, recordings, rfl, rfl⟩

end Browser
end CodeGloss
