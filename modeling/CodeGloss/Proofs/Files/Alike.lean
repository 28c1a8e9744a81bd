import CodeGloss.Proofs.Files.Disk
import Mathlib.Data.List.Forall2

/-!
# Directories listed in another order

On a disk the entries of a directory have no order of their own; they are listed in some order that may
be another one the next time.  Two trees are alike (`FileTree.Alike`) if the same can be seen at every
place: the same file, or a directory, or nothing.  So trees whose directories list the same entries in
different orders are alike (`FileTree.alike_directory`).

Paths lead to the same places in trees that are alike, and what is read there is the same
(`Disk.Relisted.resolve_eq`, `Disk.Relisted.readBytes_eq`).
-/

namespace CodeGloss
namespace FileTree

/-! ## Names -/

/-- Whether a text can be the name of an entry. -/
def IsEntryName (name : String) : Prop :=
  Disk.IsName name ∧ '/' ∉ name.toList

instance (name : String) : Decidable (IsEntryName name) :=
  inferInstanceAs (Decidable (_ ∧ _))

/-- Whether the entries of every directory have names, each its own. -/
inductive WellNamed : FileTree → Prop
  /-- A file has no entries. -/
  | file (content : ByteArray) : WellNamed (.file content)
  /-- A directory has. -/
  | directory {entries : List (String × FileTree)} (distinct : (entries.map Prod.fst).Nodup)
      (names : ∀ e ∈ entries, IsEntryName e.1) (below : ∀ e ∈ entries, WellNamed e.2) :
      WellNamed (.directory entries)

theorem find?_singleton (entries : List (String × FileTree)) (name : String) :
    (directory entries).find? [name] = entries.lookup name := by
  rw [find?]
  cases entries.lookup name with
  | none => rfl
  | some tree => cases tree <;> rfl

/-- Under distinct names an entry is found by its name. -/
theorem lookup_eq_some_iff {entries : List (String × FileTree)}
    (distinct : (entries.map Prod.fst).Nodup) {name : String} {tree : FileTree} :
    entries.lookup name = some tree ↔ (name, tree) ∈ entries := by
  rw [List.lookup_eq_some_iff]
  constructor
  · rintro ⟨before, after, rfl, -⟩
    exact List.mem_append_right _ List.mem_cons_self
  · intro mem
    obtain ⟨before, after, rfl⟩ := List.append_of_mem mem
    refine ⟨before, after, rfl, fun e earlier => bne_iff_ne.mpr fun same => ?_⟩
    rw [List.map_append, List.nodup_append] at distinct
    exact distinct.2.2 e.1 (List.mem_map_of_mem earlier) name (by simp) same.symm

variable {tree tree' sub : FileTree} {place : List String}

/-- What is at some place of a tree with names has names. -/
theorem WellNamed.find? (named : tree.WellNamed) (found : tree.find? place = some sub) :
    sub.WellNamed := by
  induction place generalizing tree with
  | nil =>
    cases tree <;> cases found <;> exact named
  | cons name rest ih =>
    cases named with
    | file content => cases found
    | directory distinct names below =>
      rw [FileTree.find?] at found
      split at found
      next entry => exact ih (below _ ((lookup_eq_some_iff distinct).mp entry)) found
      next => cases found

/-- Every step of a place where something is has a name. -/
theorem WellNamed.isEntryName (named : tree.WellNamed) (there : (tree.find? place).isSome) :
    ∀ name ∈ place, IsEntryName name := by
  induction place generalizing tree with
  | nil => nofun
  | cons first rest ih =>
    cases named with
    | file content => cases there
    | directory distinct names below =>
      rw [FileTree.find?] at there
      split at there
      next entry =>
        have mem := (lookup_eq_some_iff distinct).mp entry
        exact List.forall_mem_cons.mpr ⟨names _ mem, ih (below _ mem) there⟩
      next => cases there

/-! ## What can be seen -/

/-- The bytes of a file; a directory has none. -/
def content? : FileTree → Option ByteArray
  | file content => some content
  | directory _ => none

/-- What can be seen at a place without listing any directory. -/
def sight (tree : FileTree) (place : List String) : Option (Option ByteArray) :=
  (tree.find? place).map content?

/-- Whether the same can be seen at every place of two trees. -/
def Alike (tree tree' : FileTree) : Prop :=
  ∀ place, tree.sight place = tree'.sight place

theorem Alike.refl (tree : FileTree) : tree.Alike tree :=
  fun _ => rfl

theorem Alike.symm (alike : tree.Alike tree') : tree'.Alike tree :=
  fun place => (alike place).symm

theorem sight_eq_none_iff : tree.sight place = none ↔ tree.find? place = none :=
  Option.map_eq_none_iff

theorem sight_eq_file_iff {content : ByteArray} :
    tree.sight place = some (some content) ↔ tree.find? place = some (.file content) := by
  rw [sight, Option.map_eq_some_iff]
  constructor
  · rintro ⟨sub, found, seen⟩
    cases sub with
    | file content =>
      cases seen
      exact found
    | directory entries => cases seen
  · intro found
    exact ⟨_, found, rfl⟩

theorem sight_eq_directory_iff :
    tree.sight place = some none ↔ ∃ entries, tree.find? place = some (.directory entries) := by
  rw [sight, Option.map_eq_some_iff]
  constructor
  · rintro ⟨sub, found, seen⟩
    cases sub with
    | file content => cases seen
    | directory entries => exact ⟨entries, found⟩
  · rintro ⟨entries, found⟩
    exact ⟨_, found, rfl⟩

theorem sight_append (found : tree.find? place = some sub) (rest : List String) :
    tree.sight (place ++ rest) = sub.sight rest := by
  rw [sight, find?_append, found]
  rfl

/-- At the same place of trees that are alike there are such trees again. -/
theorem Alike.exists_find? (alike : tree.Alike tree') (found : tree.find? place = some sub) :
    ∃ sub', tree'.find? place = some sub' ∧ sub.Alike sub' := by
  cases found' : tree'.find? place with
  | none =>
    have seen := (alike place).trans (sight_eq_none_iff.mpr found')
    rw [sight_eq_none_iff.mp seen] at found
    cases found
  | some sub' =>
    refine ⟨sub', rfl, fun rest => ?_⟩
    rw [← sight_append found, ← sight_append found', alike]

theorem Alike.isSome_find? (alike : tree.Alike tree') (place : List String) :
    (tree.find? place).isSome = (tree'.find? place).isSome := by
  have seen := congrArg Option.isSome (alike place)
  rwa [sight, sight, Option.isSome_map, Option.isSome_map] at seen

theorem Alike.find?_eq_file_iff (alike : tree.Alike tree') {content : ByteArray} :
    tree.find? place = some (.file content) ↔ tree'.find? place = some (.file content) := by
  rw [← sight_eq_file_iff, alike, sight_eq_file_iff]

theorem Alike.isDirectory_eq (alike : tree.Alike tree') : tree.isDirectory = tree'.isDirectory := by
  have seen : some tree.content? = some tree'.content? := by
    have := alike []
    rwa [sight, sight, find?, find?] at this
  cases tree <;> cases tree' <;> first | rfl | cases seen

/-- **Directories are alike whose entries are, in whatever order.** -/
theorem alike_directory {entries listed entries' : List (String × FileTree)}
    (distinct : (entries.map Prod.fst).Nodup) (perm : entries.Perm listed)
    (below : listed.Forall₂ (fun e e' => e.1 = e'.1 ∧ e.2.Alike e'.2) entries') :
    (directory entries).Alike (directory entries') := by
  have distinct' : (listed.map Prod.fst).Nodup := (perm.map Prod.fst).nodup_iff.mp distinct
  intro place
  cases place with
  | nil => rfl
  | cons name rest =>
    have same : entries.lookup name = listed.lookup name := by
      refine Option.ext fun tree => ?_
      rw [lookup_eq_some_iff distinct, lookup_eq_some_iff distinct', perm.mem_iff]
    have seen : ((listed.lookup name).bind (·.find? rest)).map content? =
        ((entries'.lookup name).bind (·.find? rest)).map content? := by
      clear same perm distinct distinct'
      induction below with
      | nil => rfl
      | @cons e e' listed entries' head below ih =>
        rw [List.lookup_cons, List.lookup_cons, ← head.1]
        split
        · exact head.2 rest
        · exact ih
    have whole : ∀ es : List (String × FileTree), (directory es).sight (name :: rest) =
        ((es.lookup name).bind (·.find? rest)).map content? := by
      intro es
      rw [sight, find?]
      cases es.lookup name <;> rfl
    rw [whole, whole, same, seen]

end FileTree

/-! ## Disks -/

namespace Disk

open FileTree (sight)

/-- Whether a disk is another one with its directories listed in some order. -/
structure Relisted (disk disk' : Disk) : Prop where
  /-- Paths start at the same place. -/
  here : disk'.here = disk.here
  /-- The same can be seen. -/
  alike : disk.tree.Alike disk'.tree
  /-- Every entry has a name of its own. -/
  named : disk'.tree.WellNamed

variable {disk disk' : Disk} {path : String} {place : List String}

theorem Relisted.refl (named : disk.tree.WellNamed) : disk.Relisted disk :=
  ⟨rfl, .refl disk.tree, named⟩

/-- A step leads on from a directory to what can be seen there. -/
theorem follow_cons (place : List String) (step : String) (rest : List String) :
    disk.follow place (step :: rest) =
      match disk.tree.sight place with
      | none => .error .notFound
      | some (some _) => .error .notDirectory
      | some none =>
        if step == "" || step == "." then disk.follow place rest
        else if step == ".." then disk.follow place.dropLast rest
        else if (disk.tree.sight (place ++ [step])).isSome then disk.follow (place ++ [step]) rest
        else .error .notFound := by
  rw [follow]
  cases found : disk.tree.find? place with
  | none => rw [FileTree.sight_eq_none_iff.mpr found]
  | some tree =>
    have next := FileTree.sight_append found [step]
    cases tree with
    | file content => rw [FileTree.sight_eq_file_iff.mpr found]
    | directory entries =>
      rw [FileTree.sight_eq_directory_iff.mpr ⟨entries, found⟩, next, sight, Option.isSome_map,
        FileTree.find?_singleton]

theorem follow_of_alike (alike : disk.tree.Alike disk'.tree) (place steps : List String) :
    disk'.follow place steps = disk.follow place steps := by
  induction steps generalizing place with
  | nil => rw [follow, follow]
  | cons step rest ih => simp only [follow_cons, alike _, ih]

/-- A path leads to the same place. -/
theorem Relisted.resolve_eq (again : disk.Relisted disk') (path : String) :
    disk'.resolve path = disk.resolve path := by
  rw [resolve, resolve, origin, origin, again.here, follow_of_alike again.alike]

/-- What a path leads to can be seen at its place. -/
theorem open?_eq (path : String) :
    disk.open? path =
      (disk.resolve path).bind fun place =>
        (disk.tree.find? place).elim (.error .notFound) .ok := by
  rw [open?]
  refine congrArg (Except.bind _) (funext fun place => ?_)
  cases disk.tree.find? place <;> rfl

theorem readBytes_eq (path : String) :
    disk.readBytes path =
      (disk.resolve path).bind fun place =>
        match disk.tree.sight place with
        | none => .error .notFound
        | some (some content) => .ok content
        | some none => .error .isDirectory := by
  rw [readBytes, open?_eq]
  cases disk.resolve path with
  | error fault => rfl
  | ok place =>
    show Except.bind ((disk.tree.find? place).elim (.error Fault.notFound) .ok) _ = _
    cases found : disk.tree.find? place with
    | none =>
      simp only [Except.bind, FileTree.sight_eq_none_iff.mpr found]
      rfl
    | some tree =>
      cases tree with
      | file content =>
        simp only [Except.bind, FileTree.sight_eq_file_iff.mpr found]
        rfl
      | directory entries =>
        simp only [Except.bind, FileTree.sight_eq_directory_iff.mpr ⟨entries, found⟩]
        rfl

/-- What is read is the same. -/
theorem Relisted.readBytes_eq (again : disk.Relisted disk') (path : String) :
    disk'.readBytes path = disk.readBytes path := by
  simp only [Disk.readBytes_eq, again.resolve_eq, again.alike _]

/-- A file is read by a path that leads to it. -/
theorem readBytes_of_resolve {content : ByteArray} (leads : disk.resolve path = .ok place)
    (found : disk.tree.find? place = some (.file content)) : disk.readBytes path = .ok content := by
  rw [Disk.readBytes_eq, leads]
  simp only [Except.bind, FileTree.sight_eq_file_iff.mpr found]

end Disk
end CodeGloss
