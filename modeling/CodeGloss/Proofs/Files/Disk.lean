import CodeGloss.Files.Disk
import CodeGloss.Proofs.Files.Tree
import CodeGloss.Proofs.Text.Lines

/-!
# Reading and writing

What can be read is there, and the bytes of a text are read as that text.  What was written to a path
that ends with a name is read back from it (`Disk.readText_of_writeText`): whoever follows the path
goes through directories that are still there, and finds the new file in the last one.

From the root on, paths lead to the same place whatever the working directory is.

What it takes to write to such a path can be said as well: the path has to lead to a directory up to
its last step, and must not lead to one with it (`Disk.exists_writeText_iff`).  To make directories
that are there already changes nothing (`Disk.makeDirectories_of_isDirectory`).
-/

namespace CodeGloss
namespace Disk

variable {disk disk' : Disk} {path : String}

/-! ## Texts -/

/-- The bytes of a text spell that text. -/
theorem fromUTF8?_toUTF8 (text : String) : String.fromUTF8? text.toUTF8 = some text := by
  rw [String.fromUTF8?, String.toUTF8_eq_toByteArray, dif_pos text.isValidUTF8]
  rfl

/-- A file with the bytes of a text is read as that text. -/
theorem readText_of_readBytes {text : String} (reads : disk.readBytes path = .ok text.toUTF8) :
    disk.readText path = .ok text := by
  simp only [readText, reads, bind, Except.bind, fromUTF8?_toUTF8]

/-- The bytes of a file that is read as a text are those of the text. -/
theorem readBytes_of_readText {text : String} (reads : disk.readText path = .ok text) :
    disk.readBytes path = .ok text.toUTF8 := by
  unfold readText at reads
  cases bytes_eq : disk.readBytes path with
  | error fault =>
    rw [bytes_eq] at reads
    cases reads
  | ok bytes =>
    rw [bytes_eq] at reads
    simp only [bind, Except.bind, String.fromUTF8?] at reads
    split at reads
    next decoded =>
      cases reads
      split at decoded
      · cases decoded
        rfl
      · cases decoded
    next => cases reads

/-- What can be read is there. -/
theorem has_of_readText {text : String} (reads : disk.readText path = .ok text) :
    disk.has path = true := by
  unfold readText readBytes at reads
  unfold has
  cases opened : disk.open? path with
  | error fault =>
    rw [opened] at reads
    cases reads
  | ok tree => rfl

/-- What can be read is no directory. -/
theorem isDirectory_of_readText {text : String} (reads : disk.readText path = .ok text) :
    disk.isDirectory path = false := by
  unfold readText readBytes at reads
  unfold isDirectory
  cases opened : disk.open? path with
  | error fault => rfl
  | ok tree =>
    rw [opened] at reads
    cases tree with
    | file content => rfl
    | directory es => cases reads

/-! ## Following paths -/

theorem follow_append (disk : Disk) (place front back : List String) :
    disk.follow place (front ++ back) =
      match disk.follow place front with
      | .ok goal => disk.follow goal back
      | .error fault => .error fault := by
  induction front generalizing place with
  | nil => rw [List.nil_append, follow]
  | cons step front ih =>
    simp only [List.cons_append, follow, ih]
    split
    next => rfl
    next => rfl
    next =>
      split
      · rfl
      · split
        · rfl
        · split <;> rfl

/-- A slash at the end of a path leads no further. -/
theorem follow_of_slash {start steps place : List String}
    (leads : disk.follow start (steps ++ [""]) = .ok place) :
    disk.follow start steps = .ok place := by
  rw [follow_append] at leads
  cases goes : disk.follow start steps with
  | error fault =>
    rw [goes] at leads
    cases leads
  | ok goal =>
    rw [goes] at leads
    dsimp only at leads
    rw [follow] at leads
    split at leads
    next => cases leads
    next => cases leads
    next => exact leads

theorem follow_congr (same : disk'.tree = disk.tree) (place steps : List String) :
    disk'.follow place steps = disk.follow place steps := by
  induction steps generalizing place with
  | nil => simp only [follow]
  | cons step steps ih => simp only [follow, same, ih]

/-- Absolute paths lead to the same place whatever the working directory is. -/
theorem open?_congr (same : disk'.tree = disk.tree) (absolute : Path.isAbsolute path = true) :
    disk'.open? path = disk.open? path := by
  simp only [open?, resolve, origin, absolute, if_true, follow_congr same, same]

/-! ## Directories -/

theorem holdsDirectory_eq_true_iff {place : List String} :
    disk.holdsDirectory place = true ↔ ∃ es, disk.tree.find? place = some (.directory es) := by
  unfold holdsDirectory
  constructor
  · intro holds
    cases found : disk.tree.find? place with
    | none =>
      rw [found] at holds
      cases holds
    | some tree =>
      rw [found] at holds
      cases tree with
      | file content => cases holds
      | directory es => exact ⟨es, rfl⟩
  · rintro ⟨es, found⟩
    rw [found]
    rfl

theorem isDirectory_eq_true_iff :
    disk.isDirectory path = true ↔
      ∃ place, disk.resolve path = .ok place ∧ disk.holdsDirectory place = true := by
  unfold isDirectory open? holdsDirectory
  cases disk.resolve path with
  | error fault => simp [bind, Except.bind]
  | ok place => cases found : disk.tree.find? place <;> simp [bind, Except.bind, found]

/-- Whoever comes to a directory has started from one. -/
theorem holdsDirectory_of_follow {start steps goal : List String}
    (leads : disk.follow start steps = .ok goal) (holds : disk.holdsDirectory goal = true) :
    disk.holdsDirectory start = true := by
  cases steps with
  | nil =>
    rw [follow] at leads
    cases leads
    exact holds
  | cons step steps =>
    rw [follow] at leads
    split at leads
    next => cases leads
    next => cases leads
    next es found => exact holdsDirectory_eq_true_iff.mpr ⟨es, found⟩

/-- Where all directories are there already, none are made on the way. -/
theorem makeSteps_append_of_follow {start steps goal : List String}
    (leads : disk.follow start steps = .ok goal) (holds : disk.holdsDirectory goal = true)
    (rest : List String) : makeSteps disk start (steps ++ rest) = makeSteps disk goal rest := by
  induction steps generalizing start with
  | nil =>
    rw [follow] at leads
    cases leads
    rfl
  | cons step steps ih =>
    rw [follow] at leads
    rw [List.cons_append, makeSteps]
    split at leads
    next => cases leads
    next => cases leads
    next es found =>
      split at leads
      next stays =>
        rw [if_pos stays]
        exact ih leads
      next moves =>
        rw [if_neg moves]
        split at leads
        next up =>
          rw [if_pos up]
          exact ih leads
        next down =>
          rw [if_neg down]
          split at leads
          next there =>
            -- The entry is a directory, since one can go on from it or ends there.
            obtain ⟨es', found'⟩ :=
              holdsDirectory_eq_true_iff.mp (holdsDirectory_of_follow leads holds)
            dsimp only
            rw [found']
            exact ih leads
          next => cases leads

/-- To make a directory that is there changes nothing. -/
theorem makeDirectories_of_isDirectory (there : disk.isDirectory path = true) :
    disk.makeDirectories path = .ok disk := by
  obtain ⟨place, leads, holds⟩ := isDirectory_eq_true_iff.mp there
  unfold resolve at leads
  split at leads
  next => cases leads
  next =>
    have made := makeSteps_append_of_follow leads holds []
    rw [List.append_nil] at made
    exact made

/-! ## Reading what was written -/

theorem put_eq_ok {place : List String} {sub : FileTree} (put : disk.put place sub = .ok disk') :
    ∃ whole, disk.tree.put? place sub = some whole ∧ disk' = { disk with tree := whole } := by
  unfold Disk.put at put
  split at put
  next whole eq =>
    cases put
    exact ⟨whole, eq, rfl⟩
  next => cases put

/-- Where there is no directory one cannot go on from. -/
theorem not_prefix_of_directory {place other : List String} {es : List (String × FileTree)}
    (free : disk.holdsDirectory place = false)
    (found : disk.tree.find? other = some (.directory es)) : ¬place <+: other := by
  rintro ⟨rest, rfl⟩
  rw [FileTree.find?_append] at found
  obtain ⟨tree, there, found⟩ := Option.bind_eq_some_iff.mp found
  rw [holdsDirectory, there] at free
  cases tree with
  | directory entries => exact absurd free (by simp [FileTree.isDirectory])
  | file content => cases rest <;> cases found

/-- Whoever could follow a path still can after something was put where no directory was. -/
theorem follow_put {place : List String} {sub : FileTree} (put : disk.put place sub = .ok disk')
    (free : disk.holdsDirectory place = false) {start steps goal : List String}
    (leads : disk.follow start steps = .ok goal) : disk'.follow start steps = .ok goal := by
  obtain ⟨whole, put', rfl⟩ := put_eq_ok put
  induction steps generalizing start with
  | nil =>
    rw [follow] at leads ⊢
    exact leads
  | cons step steps ih =>
    rw [follow] at leads ⊢
    split at leads
    next => cases leads
    next => cases leads
    next es found =>
      obtain ⟨es', found', kept⟩ :=
        FileTree.find?_put?_directory put' (not_prefix_of_directory free found) found
      simp only [found']
      split at leads
      next stays =>
        rw [if_pos stays]
        exact ih leads
      next moves =>
        rw [if_neg moves]
        split at leads
        next up =>
          rw [if_pos up]
          exact ih leads
        next down =>
          rw [if_neg down]
          split at leads
          next there =>
            rw [if_pos (kept step there)]
            exact ih leads
          next => cases leads

/-- A directory stays one after something was put where no directory was. -/
theorem holdsDirectory_put {place : List String} {sub : FileTree}
    (put : disk.put place sub = .ok disk') (free : disk.holdsDirectory place = false)
    {other : List String} (holds : disk.holdsDirectory other = true) :
    disk'.holdsDirectory other = true := by
  obtain ⟨es, found⟩ := holdsDirectory_eq_true_iff.mp holds
  obtain ⟨whole, put', rfl⟩ := put_eq_ok put
  obtain ⟨es', found', -⟩ :=
    FileTree.find?_put?_directory put' (not_prefix_of_directory free found) found
  exact holdsDirectory_eq_true_iff.mpr ⟨es', found'⟩

/-- Whether a step of a path is the name of an entry. -/
def IsName (step : String) : Prop :=
  step ≠ "" ∧ step ≠ "." ∧ step ≠ ".."

instance (step : String) : Decidable (IsName step) :=
  inferInstanceAs (Decidable (_ ∧ _ ∧ _))

/-- From a place one gets to what is in it. -/
theorem follow_name {place : List String} {name : String} {sub : FileTree} (named : IsName name)
    (there : disk.tree.find? (place ++ [name]) = some sub) :
    disk.follow place [name] = .ok (place ++ [name]) := by
  obtain ⟨full, plain, proper⟩ := named
  rw [FileTree.find?_append] at there
  obtain ⟨tree, found, entry⟩ := Option.bind_eq_some_iff.mp there
  cases tree with
  | file content => cases entry
  | directory es =>
    rw [FileTree.find?] at entry
    have listed : (es.lookup name).isSome = true := by
      cases eq : es.lookup name with
      | none =>
        rw [eq] at entry
        cases entry
      | some below => rfl
    simp [follow, found, full, plain, proper, listed]

/-- By its name one gets nowhere else. -/
theorem follow_name_eq {place goal : List String} {name : String} (named : IsName name)
    (goes : disk.follow place [name] = .ok goal) : goal = place ++ [name] := by
  obtain ⟨full, plain, proper⟩ := named
  have stays : (name == "" || name == ".") = false := by simp [full, plain]
  have up : (name == "..") = false := by simpa using proper
  rw [follow] at goes
  split at goes
  next => cases goes
  next => cases goes
  next es found =>
    rw [stays, up, if_neg Bool.false_ne_true, if_neg Bool.false_ne_true] at goes
    split at goes
    next there =>
      rw [follow] at goes
      cases goes
      rfl
    next => cases goes

section Named

variable {above : List String} {name : String}

/-- A path that names something is not empty. -/
theorem isEmpty_of_pieces (pieces : Path.pieces path = above ++ [name]) (named : IsName name) :
    path.isEmpty = false := by
  rw [Bool.eq_false_iff]
  intro empty
  obtain rfl : path = "" := by simpa using empty
  have last := congrArg List.getLast? pieces
  rw [List.getLast?_concat] at last
  exact named.1 (Option.some.inj last).symm

/-- Behind the last slash of a path that names something there is the name. -/
theorem getLast?_ne_slash (pieces : Path.pieces path = above ++ [name]) (named : IsName name) :
    path.toList.getLast? ≠ some '/' := by
  intro ends
  obtain ⟨front, eq⟩ := List.getLast?_eq_some_iff.mp ends
  have last := congrArg List.getLast? pieces
  rw [Path.pieces, eq, Text.splitOn_append (by rfl), Text.splitOn_nil, List.map_append,
    List.map_singleton, List.getLast?_concat, List.getLast?_concat] at last
  exact named.1 (Option.some.inj last).symm

/-- A path that names a file at its end is to lead to that name in the directory above. -/
theorem resolveNew_eq_ok_iff (pieces : Path.pieces path = above ++ [name]) (named : IsName name)
    {place : List String} :
    disk.resolveNew path = .ok place ↔
      ∃ parent, disk.follow (disk.origin path) above = .ok parent ∧
        disk.holdsDirectory parent = true ∧ place = parent ++ [name] := by
  have full := isEmpty_of_pieces pieces named
  obtain ⟨some_, plain, proper⟩ := named
  have last : (Path.pieces path).reverse.dropWhile (fun s => s == "" || s == ".") =
      name :: above.reverse := by
    rw [pieces, List.reverse_append, List.reverse_singleton, List.singleton_append,
      List.dropWhile_cons_of_neg (by simp [some_, plain])]
  have apart : (name == "..") = false := by simpa using proper
  unfold resolveNew
  simp only [full, last, List.reverse_reverse, apart, if_neg Bool.false_ne_true, bind, Except.bind]
  cases leads : disk.follow (disk.origin path) above with
  | error fault =>
    refine iff_of_false (fun resolved => by cases resolved) ?_
    rintro ⟨_, ⟨⟩, -⟩
  | ok parent =>
    dsimp only
    cases holds : disk.holdsDirectory parent with
    | false =>
      rw [Bool.not_false, if_pos rfl]
      refine iff_of_false (fun resolved => by cases resolved) ?_
      rintro ⟨_, ⟨⟩, holds', -⟩
      rw [holds] at holds'
      cases holds'
    | true =>
      rw [Bool.not_true, if_neg Bool.false_ne_true]
      constructor
      · intro resolved
        cases resolved
        exact ⟨parent, rfl, holds, rfl⟩
      · rintro ⟨_, ⟨⟩, -, rfl⟩
        rfl

/-- Whoever writes to a file puts it into the directory above, unless there is a directory where it
is to be. -/
theorem writeBytes_eq_ok_iff (pieces : Path.pieces path = above ++ [name]) (named : IsName name)
    {content : ByteArray} :
    disk.writeBytes path content = .ok disk' ↔
      ∃ parent, disk.follow (disk.origin path) above = .ok parent ∧
        disk.holdsDirectory parent = true ∧ disk.holdsDirectory (parent ++ [name]) = false ∧
        disk.put (parent ++ [name]) (.file content) = .ok disk' := by
  have slash : (path.toList.getLast? == some '/') = false := by
    rw [beq_eq_false_iff_ne]
    exact getLast?_ne_slash pieces named
  have resolves := @resolveNew_eq_ok_iff disk path above name pieces named
  unfold writeBytes
  rw [slash]
  constructor
  · intro written
    cases resolved : disk.resolveNew path with
    | error fault =>
      rw [resolved] at written
      cases written
    | ok place =>
      obtain ⟨parent, leads, holds, rfl⟩ := resolves.mp resolved
      rw [resolved] at written
      cases free : disk.holdsDirectory (parent ++ [name]) with
      | true =>
        simp only [bind, Except.bind, free] at written
        cases written
      | false =>
        simp only [bind, Except.bind, free, if_neg Bool.false_ne_true] at written
        exact ⟨parent, leads, holds, free, written⟩
  · rintro ⟨parent, leads, holds, free, put⟩
    rw [resolves.mpr ⟨parent, leads, holds, rfl⟩]
    simp only [bind, Except.bind, free, if_neg Bool.false_ne_true]
    exact put

/-- A path that names something leads there from the directory above. -/
theorem resolve_eq_follow (pieces : Path.pieces path = above ++ [name]) (named : IsName name)
    {parent : List String} (leads : disk.follow (disk.origin path) above = .ok parent) :
    disk.resolve path = disk.follow parent [name] := by
  rw [resolve, isEmpty_of_pieces pieces named, if_neg Bool.false_ne_true, pieces, follow_append,
    leads]

/-- What is written to a file that a path names at its end is read from there. -/
theorem readBytes_of_writeBytes {content : ByteArray}
    (pieces : Path.pieces path = above ++ [name]) (named : IsName name)
    (written : disk.writeBytes path content = .ok disk') :
    disk'.readBytes path = .ok content := by
  obtain ⟨parent, leads, -, free, put⟩ := (writeBytes_eq_ok_iff pieces named).mp written
  -- The directory above is where it was, and the new file is in it.
  have leads' := follow_put put free leads
  obtain ⟨whole, put', rfl⟩ := put_eq_ok put
  have there := FileTree.find?_put? put'
  have resolves := (resolve_eq_follow pieces named leads').trans (follow_name named there)
  simp only [readBytes, open?, resolves, there, bind, Except.bind]

/-- **What is written to a file is read from there**, if the path names it at its end. -/
theorem readText_of_writeText {text : String} (pieces : Path.pieces path = above ++ [name])
    (named : IsName name) (written : disk.writeText path text = .ok disk') :
    disk'.readText path = .ok text :=
  readText_of_readBytes (readBytes_of_writeBytes pieces named written)

/-- A path that names something leads to a directory if the directory above has one of that name. -/
theorem isDirectory_named (pieces : Path.pieces path = above ++ [name]) (named : IsName name)
    {parent : List String} (leads : disk.follow (disk.origin path) above = .ok parent) :
    disk.isDirectory path = disk.holdsDirectory (parent ++ [name]) := by
  rw [Bool.eq_iff_iff, isDirectory_eq_true_iff, resolve_eq_follow pieces named leads]
  constructor
  · rintro ⟨place, goes, holds⟩
    rw [← follow_name_eq named goes]
    exact holds
  · intro holds
    obtain ⟨es, found⟩ := holdsDirectory_eq_true_iff.mp holds
    exact ⟨_, follow_name named found, holds⟩

/-- **When a text can be written to a file**, if the path names it at its end. -/
theorem exists_writeText_iff (pieces : Path.pieces path = above ++ [name]) (named : IsName name)
    (text : String) :
    (∃ disk', disk.writeText path text = .ok disk') ↔
      (∃ parent, disk.follow (disk.origin path) above = .ok parent ∧
        disk.holdsDirectory parent = true) ∧
      disk.isDirectory path = false := by
  constructor
  · rintro ⟨disk', written⟩
    obtain ⟨parent, leads, holds, free, -⟩ := (writeBytes_eq_ok_iff pieces named).mp written
    exact ⟨⟨parent, leads, holds⟩, (isDirectory_named pieces named leads).trans free⟩
  · rintro ⟨⟨parent, leads, holds⟩, free⟩
    rw [isDirectory_named pieces named leads] at free
    obtain ⟨es, found⟩ := holdsDirectory_eq_true_iff.mp holds
    obtain ⟨whole, put⟩ := FileTree.exists_put?_append found name (.file text.toUTF8)
    refine ⟨{ disk with tree := whole }, (writeBytes_eq_ok_iff pieces named).mpr ?_⟩
    refine ⟨parent, leads, holds, free, ?_⟩
    rw [Disk.put, put]

/-- A directory is made where there is nothing yet, in one that is there. -/
theorem exists_makeDirectories {parent : List String} (pieces : Path.pieces path = above ++ [name])
    (named : IsName name) (leads : disk.follow (disk.origin path) above = .ok parent)
    (holds : disk.holdsDirectory parent = true) (new : disk.has path = false) :
    ∃ whole, disk.makeDirectories path = .ok { disk with tree := whole } ∧
      ({ disk with tree := whole } : Disk).follow (disk.origin path) above = .ok parent ∧
      whole.find? (parent ++ [name]) = some .empty := by
  have free : disk.tree.find? (parent ++ [name]) = none := by
    cases found : disk.tree.find? (parent ++ [name]) with
    | none => rfl
    | some sub =>
      have resolves := (resolve_eq_follow pieces named leads).trans (follow_name named found)
      simp only [has, open?, resolves, found, bind, Except.bind] at new
      cases new
  obtain ⟨es, found⟩ := holdsDirectory_eq_true_iff.mp holds
  obtain ⟨whole, put⟩ := FileTree.exists_put?_append found name .empty
  have put' : disk.put (parent ++ [name]) .empty = .ok { disk with tree := whole } := by
    rw [Disk.put, put]
  have noDirectory : disk.holdsDirectory (parent ++ [name]) = false := by
    rw [holdsDirectory, free]
    rfl
  refine ⟨whole, ?_, follow_put put' noDirectory leads, FileTree.find?_put? put⟩
  obtain ⟨full, plain, proper⟩ := named
  have stays : (name == "" || name == ".") = false := by simp [full, plain]
  have up : (name == "..") = false := by simpa using proper
  rw [makeDirectories, pieces, makeSteps_append_of_follow leads holds, makeSteps, stays, up,
    if_neg Bool.false_ne_true, if_neg Bool.false_ne_true]
  simp only [free, put', bind, Except.bind, makeSteps]

end Named

end Disk
end CodeGloss
