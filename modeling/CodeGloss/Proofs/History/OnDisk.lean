import CodeGloss.Proofs.Files.Paths
import CodeGloss.Proofs.History.Written

/-!
# A history on disk

What is loaded after a history was saved is that history (`History.load_of_save`), and only
histories that can be saved are ever loaded.
-/

namespace CodeGloss

namespace History

variable {disk disk' : Disk} {root : String} {h : History}

theorem exists_stateDirectory_eq (root : String) :
    ∃ front, stateDirectory root = front ++ ".spanlens" := by
  rw [stateDirectory, Path.join, if_neg (by decide)]
  split
  · exact ⟨root, rfl⟩
  · exact ⟨root ++ "/", rfl⟩

theorem isEmpty_stateDirectory (root : String) : (stateDirectory root).isEmpty = false := by
  obtain ⟨front, eq⟩ := exists_stateDirectory_eq root
  rw [eq]
  simp

theorem path_eq (root : String) : path root = stateDirectory root ++ "/" ++ "session.json" := by
  have last : (stateDirectory root).toList.getLast? = some 's' := by
    obtain ⟨front, eq⟩ := exists_stateDirectory_eq root
    rw [eq, String.toList_append, List.getLast?_append]
    rfl
  have full := isEmpty_stateDirectory root
  rw [path, Path.join, if_neg (by decide), if_neg (by rw [full, last]; decide)]

theorem pieces_path (root : String) :
    Path.pieces (path root) = Path.pieces (stateDirectory root) ++ ["session.json"] := by
  rw [path_eq, Path.pieces_slash]
  rfl

theorem load_of_readText {text : String} (reads : disk.readText (path root) = .ok text) :
    load disk root =
      match read? text with
      | some h => .ok (some h)
      | none =>
        .error [.said ("invalid history data in " ++ Path.text (path root)), .malformed .json] := by
  simp only [load, Disk.has_of_readText reads, reads, Fault.during, bind, Except.bind]
  cases read? text <;> rfl

/-- A history is saved by writing its text into the directory that is made for it. -/
theorem save_eq_ok_iff :
    save disk root h = .ok disk' ↔
      ∃ disk₁, disk.makeDirectories (stateDirectory root) = .ok disk₁ ∧
        disk₁.writeText (path root) h.write = .ok disk' := by
  cases made : disk.makeDirectories (stateDirectory root) with
  | error fault =>
    simp only [save, made, Fault.during, bind, Except.bind]
    refine iff_of_false (fun saved => by cases saved) ?_
    rintro ⟨_, ⟨⟩, -⟩
  | ok disk₁ =>
    simp only [save, made, Fault.during, bind, Except.bind]
    constructor
    · intro saved
      cases written : disk₁.writeText (path root) h.write with
      | error fault =>
        rw [written] at saved
        cases saved
      | ok disk₂ =>
        rw [written] at saved
        cases saved
        exact ⟨disk₁, rfl, written⟩
    · rintro ⟨_, ⟨⟩, written⟩
      rw [written]

/-- What is read after a history was saved is its text. -/
theorem readText_of_save (saved : save disk root h = .ok disk') :
    disk'.readText (path root) = .ok h.write := by
  obtain ⟨disk₁, -, written⟩ := save_eq_ok_iff.mp saved
  exact Disk.readText_of_writeText (pieces_path root) (by decide) written

/-- **A history that was saved is loaded as it was.** -/
theorem load_of_save (sound : h.Sound) (saved : save disk root h = .ok disk') :
    load disk' root = .ok (some h) := by
  rw [load_of_readText (readText_of_save saved), read?_write sound]

theorem loadOrEmpty_of_save (sound : h.Sound) (saved : save disk root h = .ok disk') :
    loadOrEmpty disk' root = .ok h := by
  rw [loadOrEmpty, load_of_save sound saved]
  rfl

/-- What is loaded can be saved. -/
theorem sound_of_loadOrEmpty (loaded : loadOrEmpty disk root = .ok h) : h.Sound := by
  cases there : disk.has (path root) with
  | false =>
    simp only [loadOrEmpty, load, there] at loaded
    cases loaded
    exact sound_empty
  | true =>
    cases opened : disk.readText (path root) with
    | error fault =>
      simp only [loadOrEmpty, load, there, opened, Fault.during, bind, Except.bind] at loaded
      cases loaded
    | ok text =>
      rw [loadOrEmpty, load_of_readText opened] at loaded
      cases reads : read? text with
      | none =>
        rw [reads] at loaded
        cases loaded
      | some h' =>
        rw [reads] at loaded
        cases loaded
        exact sound_of_read? reads

/-- Below an absolute root it does not matter what the working directory is. -/
theorem loadOrEmpty_congr (same : disk'.tree = disk.tree) (absolute : Path.isAbsolute root = true) :
    loadOrEmpty disk' root = loadOrEmpty disk root := by
  have opened : disk'.open? (path root) = disk.open? (path root) :=
    Disk.open?_congr same (Path.isAbsolute_join (Path.isAbsolute_join absolute _) _)
  unfold loadOrEmpty load Disk.has Disk.readText Disk.readBytes
  dsimp only
  rw [opened]

end History
end CodeGloss
