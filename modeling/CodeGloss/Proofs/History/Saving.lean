import CodeGloss.Proofs.Files.Spelling
import CodeGloss.Proofs.History.OnDisk
import CodeGloss.Proofs.History.Recordings

/-!
# A history that is saved again and again

Between any two recordings a history may be saved, and loaded by whoever records the next one.  That
makes no difference to it, however often it happens (`History.history_survives_saving`).

For this to mean something, saving has to succeed.  Whether it does is a matter of the workspace and
not of the history (`History.exists_save_iff`): the directory of what is kept has to be there or to
be made, and no directory may be where the history is to be (`History.Savable`).  A workspace without
that directory is like that (`History.savable_of_new`), and after a save it still is
(`History.savable_of_save`).

A history goes by the texts of paths, which is not the same as to go by the paths
(`History.paths_told_apart_by_text_only`).
-/

namespace CodeGloss

namespace History

variable {disk disk' : Disk} {root : String} {h : History}

/-! ## The directory of what is kept -/

/-- The path of the history starts where the one of the directory does. -/
theorem origin_path (disk : Disk) (root : String) :
    disk.origin (path root) = disk.origin (stateDirectory root) := by
  have full := isEmpty_stateDirectory root
  rw [Disk.origin, Disk.origin, path_eq, String.append_assoc, Path.isAbsolute_append_of_ne full]

theorem isAbsolute_stateDirectory (some_ : root.isEmpty = false) :
    Path.isAbsolute (stateDirectory root) = Path.isAbsolute root := by
  rw [stateDirectory, Path.join, if_neg (by decide)]
  split
  · exact Path.isAbsolute_append_of_ne some_ _
  · rw [String.append_assoc]
    exact Path.isAbsolute_append_of_ne some_ _

/-- Up to its last step the path of the history leads to the directory. -/
theorem isDirectory_stateDirectory_iff :
    disk.isDirectory (stateDirectory root) = true ↔
      ∃ place,
        disk.follow (disk.origin (path root)) (Path.pieces (stateDirectory root)) = .ok place ∧
        disk.holdsDirectory place = true := by
  rw [Disk.isDirectory_eq_true_iff, Disk.resolve, isEmpty_stateDirectory,
    if_neg Bool.false_ne_true, origin_path]

/-- Below a root the directory is the last step, and the others lead to the root. -/
theorem pieces_stateDirectory (some_ : root.isEmpty = false) :
    ∃ steps, Path.pieces (stateDirectory root) = steps ++ [".spanlens"] ∧
      (Path.pieces root = steps ∨ Path.pieces root = steps ++ [""]) := by
  rw [stateDirectory, Path.join, if_neg (by decide), some_, Bool.false_or]
  split
  next ends =>
    rw [beq_iff_eq] at ends
    obtain ⟨front, eq⟩ := List.getLast?_eq_some_iff.mp ends
    obtain rfl : root = String.ofList front ++ "/" ++ "" := by
      rw [← String.toList_inj, eq]
      simp
    refine ⟨Path.pieces (String.ofList front), ?_, .inr (Path.pieces_slash _ _)⟩
    rw [String.append_empty, Path.pieces_slash]
    rfl
  next =>
    refine ⟨Path.pieces root, ?_, .inl rfl⟩
    rw [Path.pieces_slash]
    rfl

/-! ## When a history can be saved -/

/-- Whether a history can be saved in a workspace: the directory of what is kept can be made, and
there is no directory in it where the history is to be. -/
def Savable (disk : Disk) (root : String) : Prop :=
  ∃ disk₁, disk.makeDirectories (stateDirectory root) = .ok disk₁ ∧
    disk₁.isDirectory (stateDirectory root) = true ∧ disk₁.isDirectory (path root) = false

/-- **When a history can be saved.**  It does not matter which one it is. -/
theorem exists_save_iff : (∃ disk', save disk root h = .ok disk') ↔ Savable disk root := by
  have writes (disk₁ : Disk) := @Disk.exists_writeText_iff disk₁ (path root)
    (Path.pieces (stateDirectory root)) "session.json" (pieces_path root) (by decide) h.write
  constructor
  · rintro ⟨disk', saved⟩
    obtain ⟨disk₁, made, written⟩ := save_eq_ok_iff.mp saved
    obtain ⟨there, free⟩ := (writes disk₁).mp ⟨disk', written⟩
    exact ⟨disk₁, made, isDirectory_stateDirectory_iff.mpr there, free⟩
  · rintro ⟨disk₁, made, there, free⟩
    obtain ⟨disk', written⟩ := (writes disk₁).mpr ⟨isDirectory_stateDirectory_iff.mp there, free⟩
    exact ⟨disk', save_eq_ok_iff.mpr ⟨disk₁, made, written⟩⟩

/-- Where the directory is there already, it need not be made. -/
theorem savable_of_isDirectory (there : disk.isDirectory (stateDirectory root) = true)
    (free : disk.isDirectory (path root) = false) : Savable disk root :=
  ⟨disk, Disk.makeDirectories_of_isDirectory there, there, free⟩

/-- **A history that was saved can be saved again.** -/
theorem savable_of_save (saved : save disk root h = .ok disk') : Savable disk' root := by
  refine savable_of_isDirectory ?_ (Disk.isDirectory_of_readText (readText_of_save saved))
  obtain ⟨disk₁, -, written⟩ := save_eq_ok_iff.mp saved
  obtain ⟨place, leads, holds, free, put⟩ :=
    (Disk.writeBytes_eq_ok_iff (pieces_path root) (by decide)).mp written
  have leads' := Disk.follow_put put free leads
  have holds' := Disk.holdsDirectory_put put free holds
  obtain ⟨whole, -, rfl⟩ := Disk.put_eq_ok put
  exact isDirectory_stateDirectory_iff.mpr ⟨place, leads', holds'⟩

/-- **In a workspace that has nothing of the kind yet a history can be saved.** -/
theorem savable_of_new (workspace : disk.isDirectory root = true)
    (new : disk.has (stateDirectory root) = false) : Savable disk root := by
  obtain ⟨place, resolves, holds⟩ := Disk.isDirectory_eq_true_iff.mp workspace
  unfold Disk.resolve at resolves
  cases some_ : root.isEmpty with
  | true =>
    rw [some_] at resolves
    cases resolves
  | false =>
    rw [some_, if_neg Bool.false_ne_true] at resolves
    obtain ⟨steps, pieces, same⟩ := pieces_stateDirectory some_
    have leads : disk.follow (disk.origin (stateDirectory root)) steps = .ok place := by
      rw [Disk.origin, isAbsolute_stateDirectory some_]
      rcases same with eq | eq
      · rw [← eq]
        exact resolves
      · rw [eq] at resolves
        exact Disk.follow_of_slash resolves
    obtain ⟨whole, made, leads', found⟩ :=
      Disk.exists_makeDirectories pieces (by decide) leads holds new
    -- The new directory is empty, so there is nothing where the history is to be.
    have goes : ({ disk with tree := whole } : Disk).follow (disk.origin (path root))
        (Path.pieces (stateDirectory root)) = .ok (place ++ [".spanlens"]) := by
      rw [origin_path, pieces, Disk.follow_append, leads']
      exact Disk.follow_name (by decide) found
    refine ⟨_, made, ?_, ?_⟩
    · refine isDirectory_stateDirectory_iff.mpr ⟨_, goes, ?_⟩
      exact Disk.holdsDirectory_eq_true_iff.mpr ⟨[], found⟩
    · rw [Disk.isDirectory_named (pieces_path root) (by decide) goes, Disk.holdsDirectory,
        FileTree.find?_append, found]
      rfl

/-! ## Saving and loading in between -/

/-- What is done with the history of a workspace. -/
inductive Act where
  /-- Something is recorded in it. -/
  | record (r : Recording)
  /-- It is saved, and loaded again. -/
  | reopen
deriving DecidableEq, Repr

/-- What is recorded, if something is. -/
def Act.recording? : Act → Option Recording
  | record r => some r
  | reopen => none

/-- Everything that is recorded, in order. -/
def recordings (acts : List Act) : List Recording :=
  acts.filterMap Act.recording?

/-- The disk and the history after something was done. -/
def act (root : String) (s : Disk × History) : Act → Except Report (Disk × History)
  | .record r => .ok (s.1, Recording.apply s.2 r)
  | .reopen => do
    let disk ← save s.1 root s.2
    let h ← loadOrEmpty disk root
    .ok (disk, h)

/-- The disk and the history after some things were done, the first one first. -/
def actAll (root : String) (acts : List Act) (s : Disk × History) :
    Except Report (Disk × History) :=
  acts.foldlM (act root) s

section Acts

variable (sound : h.Sound)
include sound

/-- To save and load a history comes to where it can be saved, or fails with it. -/
theorem act_reopen :
    act root (disk, h) .reopen = (save disk root h).map fun disk' => (disk', h) := by
  cases saved : save disk root h with
  | error report => simp only [act, saved, bind, Except.bind, Except.map]
  | ok disk' =>
    simp only [act, saved, loadOrEmpty_of_save sound saved, bind, Except.bind, Except.map]

/-- Whatever is done, the history is what the recording makes of it. -/
theorem snd_of_act {a : Act} {s : Disk × History} (acted : act root (disk, h) a = .ok s) :
    s.2 = Recording.applyAll (recordings [a]) h := by
  cases a with
  | record r =>
    cases acted
    rfl
  | reopen =>
    rw [act_reopen sound] at acted
    cases saved : save disk root h with
    | error report =>
      rw [saved] at acted
      cases acted
    | ok disk' =>
      rw [saved] at acted
      cases acted
      rfl

/-- Where a history can be saved everything can be done, and after it a history can be saved. -/
theorem exists_act (savable : Savable disk root) (a : Act) :
    ∃ disk', act root (disk, h) a = .ok (disk', Recording.applyAll (recordings [a]) h) ∧
      Savable disk' root := by
  cases a with
  | record r => exact ⟨disk, rfl, savable⟩
  | reopen =>
    obtain ⟨disk', saved⟩ := exists_save_iff.mpr savable
    refine ⟨disk', ?_, savable_of_save saved⟩
    rw [act_reopen sound, saved]
    rfl

end Acts

theorem recordings_cons (a : Act) (acts : List Act) :
    recordings (a :: acts) = recordings [a] ++ recordings acts := by
  cases a <;> rfl

theorem applyAll_recordings_cons (a : Act) (acts : List Act) (h : History) :
    Recording.applyAll (recordings (a :: acts)) h =
      Recording.applyAll (recordings acts) (Recording.applyAll (recordings [a]) h) := by
  rw [recordings_cons, Recording.applyAll, List.foldl_append]
  rfl

/-- Whatever is done, the history is what the recordings make of it. -/
theorem snd_of_actAll (sound : h.Sound) {acts : List Act} {s : Disk × History}
    (acted : actAll root acts (disk, h) = .ok s) :
    s.2 = Recording.applyAll (recordings acts) h := by
  induction acts generalizing disk h with
  | nil =>
    cases acted
    rfl
  | cons a acts ih =>
    rw [actAll, List.foldlM_cons] at acted
    cases first : act root (disk, h) a with
    | error report =>
      rw [first] at acted
      cases acted
    | ok next =>
      rw [first] at acted
      obtain ⟨disk₁, h₁⟩ := next
      obtain rfl : h₁ = _ := snd_of_act sound first
      rw [applyAll_recordings_cons]
      exact ih (Recording.sound_applyAll sound _) acted

/-- Where a history can be saved everything can be done. -/
theorem exists_actAll (sound : h.Sound) (savable : Savable disk root) (acts : List Act) :
    ∃ disk', actAll root acts (disk, h) = .ok (disk', Recording.applyAll (recordings acts) h) ∧
      Savable disk' root := by
  induction acts generalizing disk h with
  | nil => exact ⟨disk, rfl, savable⟩
  | cons a acts ih =>
    obtain ⟨disk₁, first, savable₁⟩ := exists_act sound savable a
    obtain ⟨disk', rest, savable'⟩ := ih (Recording.sound_applyAll sound (recordings [a])) savable₁
    refine ⟨disk', ?_, savable'⟩
    rw [applyAll_recordings_cons, actAll, List.foldlM_cons, first]
    exact rest

/-- **A history survives being saved.**  Whatever its texts are and wherever the divider stood, a
history that was saved is loaded as it was.  Whether it can be saved does not depend on it, and where
one can be saved anything may be done: things are recorded, and in between the history is saved and
loaded, as often as one likes and between any two recordings.  In the end a path is known under an
identity if a path with its text was last uploaded under it and the identity was not deleted since
then, or if it was known under it from the start and nothing has happened to either. -/
theorem history_survives_saving {h : History} (sound : h.Sound) (disk : Disk) (root : String) :
    (∀ disk', save disk root h = .ok disk' → load disk' root = .ok (some h)) ∧
      ((∃ disk', save disk root h = .ok disk') ↔ Savable disk root) ∧
      (Savable disk root → ∀ acts, ∃ s, actAll root acts (disk, h) = .ok s ∧ Savable s.1 root) ∧
      ∀ acts s, actAll root acts (disk, h) = .ok s → ∀ path fileId,
        s.2.fileId? path = some fileId ↔
          Recording.IsLast ((recordings acts).map Recording.keyed) (Path.text path) fileId ∨
            h.fileId? path = some fileId ∧
              Recording.Undisturbed ((recordings acts).map Recording.keyed) (Path.text path)
                fileId := by
  refine ⟨fun disk' => load_of_save sound, exists_save_iff, fun savable acts => ?_, ?_⟩
  · obtain ⟨disk', acted, savable'⟩ := exists_actAll sound savable acts
    exact ⟨_, acted, savable'⟩
  · intro acts s acted path fileId
    rw [snd_of_actAll sound acted]
    exact Recording.fileId?_applyAll_eq_some_iff sound _ path fileId

/-- Here the texts have quotation marks, backslashes, line feeds and characters beyond two bytes in
them, and the history is saved and loaded after each recording. -/
theorem history_survives_saving_of_any_text :
    let disk : Disk := { tree := .directory [("w", .empty)], here := [] }
    let h : History := { uploads := [("\\\"", "\x00\n")], splitPercent := some 60 }
    let acts : List Act :=
      [.record (.upload "😀/\t" "\"7\\"), .reopen, .record (.upload "é" "8"), .reopen,
        .record (.deletion "8"), .reopen]
    h.Sound ∧ Savable disk "w" ∧
      ∃ s, actAll "w" acts (disk, h) = .ok s ∧ s.2.fileId? "😀/\t" = some "\"7\\" ∧
        s.2.fileId? "\\\"" = some "\x00\n" ∧ s.2.fileId? "é" = none := by
  intro disk h acts
  have sound : h.Sound := by
    refine ⟨List.pairwise_singleton _ _, fun n mem => ?_⟩
    cases mem
    decide
  have savable : Savable disk "w" := savable_of_new (by decide +kernel) (by decide +kernel)
  obtain ⟨-, -, survives, tells⟩ := history_survives_saving sound disk "w"
  obtain ⟨s, acted, -⟩ := survives savable acts
  have emoji : Path.text "😀/\t" = "😀/\t" := Path.text_of_plain (by decide)
  have quote : Path.text "\\\"" = "\\\"" := Path.text_of_plain (by decide)
  have accent : Path.text "é" = "é" := Path.text_of_plain (by decide)
  have records : (recordings acts).map Recording.keyed =
      [.upload "😀/\t" "\"7\\", .upload "é" "8", .deletion "8"] := by
    show [Recording.upload (Path.text "😀/\t") _, .upload (Path.text "é") _, _] = _
    rw [emoji, accent]
    rfl
  have known := tells acts s acted
  rw [records] at known
  refine ⟨sound, savable, s, acted, (known _ _).mpr (.inl ?_), (known _ _).mpr (.inr ?_), ?_⟩
  · rw [emoji]
    exact ⟨[], [.upload "é" "8", .deletion "8"], rfl, by simp, by simp⟩
  · rw [fileId?, quote]
    exact ⟨rfl, by simp, by simp⟩
  · cases still : s.2.fileId? "é" with
    | none => rfl
    | some fileId =>
      have last := (known _ _).mp still
      rw [fileId?, accent] at last
      simp [Recording.isLast_cons, Recording.not_isLast_nil, Recording.Undisturbed, h,
        Table.get?] at last
      exact absurd last.1.symm last.2

/-- **The text of a path is not the path.**  Two paths with one text are taken for the same, and a path
is not known by another way to write it. -/
theorem paths_told_apart_by_text_only :
    let disk : Disk := { tree := .directory [("w", .empty)], here := [] }
    let one := "a\x00\u00ff.py"
    let other := "a\x00\u00fe.py"
    let acts : List Act :=
      [.record (.upload one "1"), .record (.upload other "2"), .record (.upload "b//c.py" "3"),
        .reopen]
    Path.bytes one = [0x61, 0xFF, 0x2E, 0x70, 0x79] ∧
      Path.bytes other = [0x61, 0xFE, 0x2E, 0x70, 0x79] ∧ Path.same "b/c.py" "b//c.py" = true ∧
      ∃ s, actAll "w" acts (disk, {}) = .ok s ∧
        Recording.IsLast (recordings acts) one "1" ∧ s.2.fileId? one = some "2" ∧
        s.2.fileId? "b/c.py" = none := by
  intro disk one other acts
  have savable : Savable disk "w" := savable_of_new (by decide +kernel) (by decide +kernel)
  obtain ⟨disk', acted, -⟩ := exists_actAll sound_empty savable acts
  have known : (Recording.applyAll (recordings acts) {}).fileId? one = some "2" ∧
      (Recording.applyAll (recordings acts) {}).fileId? "b/c.py" = none := by
    decide +kernel
  refine ⟨by decide +kernel, by decide +kernel, by decide +kernel, _, acted, ?_, known⟩
  exact ⟨[], [.upload other "2", .upload "b//c.py" "3"], rfl, by simp [one, other], by simp⟩

end History
end CodeGloss
