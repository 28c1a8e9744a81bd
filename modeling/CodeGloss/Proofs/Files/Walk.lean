import CodeGloss.Files.Ignore
import CodeGloss.Proofs.Files.Alike
import Mathlib.Data.List.Nodup

/-!
# Which files a walk finds

A walk goes from a directory to those of its entries that it does not pass over.  Whether it passes over
an entry depends on what the directories above say and not on the way or the order in which the walk
goes (`Ignore.levelsAbove_concat`).  So the places that it reaches can be told without walking
(`Ignore.Reaches`), and the walk finds every file at such a place (`Ignore.mem_filesBelow_iff`) once
(`Ignore.nodup_filesBelow`).

In a tree that is alike but lists its directories in another order a walk finds the same files, in some
order (`Ignore.perm_filesBelow`).
-/

namespace CodeGloss
namespace Ignore

open FileTree (WellNamed Alike sight)

variable {tree tree' sub directory directory' : FileTree} {showHidden : Bool}
  {root place goal : List String} {name : String}

/-! ## What directories say -/

theorem rulesAt_of_alike (alike : directory.Alike directory') (place : List String) :
    rulesAt directory' place = rulesAt directory place := by
  have seen : ∀ d : FileTree, rulesAt d place = (d.sight place).join.elim [] rulesOf := by
    intro d
    rw [rulesAt, sight]
    cases d.find? place with
    | none => rfl
    | some found => cases found <;> rfl
  rw [seen, seen, alike]

theorem ofDirectory_of_alike (alike : directory.Alike directory') (place : List String) :
    Level.ofDirectory place directory' = Level.ofDirectory place directory := by
  simp only [Level.ofDirectory, rulesAt_of_alike alike, alike.isSome_find?]

/-- What the directory at a place says. -/
def levelAt (tree : FileTree) (place : List String) : Level :=
  Level.ofDirectory place ((tree.find? place).getD .empty)

theorem levelAt_of_alike (alike : tree.Alike tree') (place : List String) :
    levelAt tree' place = levelAt tree place := by
  rw [levelAt, levelAt]
  cases found : tree.find? place with
  | none =>
    have none_ : tree'.find? place = none := by
      rw [← Option.not_isSome_iff_eq_none, ← alike.isSome_find?, found]
      exact Bool.false_ne_true
    rw [none_]
  | some above =>
    obtain ⟨above', found', alike'⟩ := alike.exists_find? found
    rw [found']
    exact ofDirectory_of_alike alike' place

theorem levelsAbove_eq (tree : FileTree) (place : List String) :
    levelsAbove tree place =
      ((List.range place.length).map fun n => levelAt tree (place.take n)).reverse :=
  rfl

theorem levelsAbove_of_alike (alike : tree.Alike tree') (place : List String) :
    levelsAbove tree' place = levelsAbove tree place := by
  simp only [levelsAbove_eq, levelAt_of_alike alike]

/-- What is said about an entry is said by the directory that it is in and by those above. -/
theorem levelsAbove_concat (found : tree.find? place = some directory) (name : String) :
    levelsAbove tree (place ++ [name]) =
      Level.ofDirectory place directory :: levelsAbove tree place := by
  have here : levelAt tree place = Level.ofDirectory place directory := by
    rw [levelAt, found]
    rfl
  have above : ∀ n ∈ List.range place.length,
      levelAt tree ((place ++ [name]).take n) = levelAt tree (place.take n) := by
    intro n mem
    rw [List.take_append_of_le_length (List.mem_range.mp mem).le]
  rw [levelsAbove_eq, levelsAbove_eq, List.length_append, List.length_singleton, List.range_succ,
    List.map_append, List.reverse_append, List.map_congr_left above, List.map_singleton,
    List.take_left, here, List.reverse_singleton, List.singleton_append]

/-! ## Where a walk gets -/

/-- Whether a walk takes an entry of the directory at a place: it is there and not passed over. -/
def Takes (tree : FileTree) (showHidden : Bool) (place : List String) (name : String) : Prop :=
  ∃ sub, tree.find? (place ++ [name]) = some sub ∧
    skips (levelsAbove tree (place ++ [name])) showHidden place name sub.isDirectory = false

/-- The places that a walk gets to from a root. -/
inductive Reaches (tree : FileTree) (showHidden : Bool) (root : List String) : List String → Prop
  /-- It starts at the root. -/
  | root : Reaches tree showHidden root root
  /-- From a place it goes to the entries that it takes. -/
  | entry {place : List String} {name : String} (reaches : Reaches tree showHidden root place)
      (takes : Takes tree showHidden place name) : Reaches tree showHidden root (place ++ [name])

theorem Reaches.prefix_ (reaches : Reaches tree showHidden root goal) : root <+: goal := by
  induction reaches with
  | root => exact List.prefix_rfl
  | entry _ _ ih => exact ih.trans (List.prefix_append _ _)

/-- What is reached from an entry is reached from its directory. -/
theorem Reaches.head (takes : Takes tree showHidden root name)
    (reaches : Reaches tree showHidden (root ++ [name]) goal) :
    Reaches tree showHidden root goal := by
  induction reaches with
  | root => exact .entry .root takes
  | entry _ takes' ih => exact .entry ih takes'

/-- What is reached from a directory is itself or reached from one of its entries. -/
theorem Reaches.cases_head (reaches : Reaches tree showHidden root goal) :
    goal = root ∨ ∃ name, Takes tree showHidden root name ∧
      Reaches tree showHidden (root ++ [name]) goal := by
  induction reaches with
  | root => exact .inl rfl
  | @entry place name _ takes ih =>
    rcases ih with rfl | ⟨first, takes_first, reaches⟩
    · exact .inr ⟨name, takes, .root⟩
    · exact .inr ⟨first, takes_first, .entry reaches takes⟩

theorem Takes.of_alike (alike : tree.Alike tree') (takes : Takes tree showHidden place name) :
    Takes tree' showHidden place name := by
  obtain ⟨sub, found, stays⟩ := takes
  obtain ⟨sub', found', alike'⟩ := alike.exists_find? found
  refine ⟨sub', found', ?_⟩
  rw [levelsAbove_of_alike alike, ← alike'.isDirectory_eq]
  exact stays

/-- What can be seen decides where a walk gets. -/
theorem Reaches.of_alike (alike : tree.Alike tree') (reaches : Reaches tree showHidden root goal) :
    Reaches tree' showHidden root goal := by
  induction reaches with
  | root => exact .root
  | entry _ takes ih => exact .entry ih (takes.of_alike alike)

/-- Whether a walk gets to a place where a file is. -/
def Finds (tree : FileTree) (showHidden : Bool) (root goal : List String) : Prop :=
  Reaches tree showHidden root goal ∧ ∃ content, tree.find? goal = some (.file content)

theorem Finds.of_alike (alike : tree.Alike tree') (finds : Finds tree showHidden root goal) :
    Finds tree' showHidden root goal := by
  obtain ⟨reaches, content, found⟩ := finds
  exact ⟨reaches.of_alike alike, content, alike.find?_eq_file_iff.mp found⟩

theorem finds_iff_of_alike (alike : tree.Alike tree') :
    Finds tree showHidden root goal ↔ Finds tree' showHidden root goal :=
  ⟨.of_alike alike, .of_alike alike.symm⟩

/-! ## The walk -/

/-- Of the entries of a directory those are walked that are not passed over. -/
theorem walkEntries_eq (levels : List Level) (place : List String)
    (entries : List (String × FileTree)) :
    walkEntries levels showHidden place entries =
      (entries.filter fun e => !skips levels showHidden place e.1 e.2.isDirectory).flatMap
        fun e => walk levels showHidden (place ++ [e.1]) e.2 := by
  induction entries with
  | nil => rw [walkEntries, List.filter_nil, List.flatMap_nil]
  | cons e entries ih =>
    rw [walkEntries, ih]
    split
    next skipped =>
      rw [List.filter_cons_of_neg (by rw [skipped]; exact Bool.false_ne_true)]
    next stays =>
      rw [Bool.not_eq_true] at stays
      rw [List.filter_cons_of_pos (by rw [stays]; rfl), List.flatMap_cons]

/-- An entry of a directory is found there. -/
theorem find?_entry {entries : List (String × FileTree)}
    (found : tree.find? place = some (.directory entries))
    (distinct : (entries.map Prod.fst).Nodup) {e : String × FileTree} :
    tree.find? (place ++ [e.1]) = some e.2 ↔ e ∈ entries := by
  rw [FileTree.find?_append, found, Option.bind_some, FileTree.find?_singleton,
    FileTree.lookup_eq_some_iff distinct]

/-- A walk finds the files that it gets to. -/
theorem mem_walk_iff (named : sub.WellNamed) (found : tree.find? place = some sub) :
    goal ∈ walk (levelsAbove tree place) showHidden place sub ↔
      Finds tree showHidden place goal := by
  induction named generalizing place with
  | file content =>
    rw [walk, List.mem_singleton]
    constructor
    · rintro rfl
      exact ⟨.root, content, found⟩
    · rintro ⟨reaches, -⟩
      refine reaches.cases_head.resolve_right ?_
      rintro ⟨name, ⟨below, entry, -⟩, -⟩
      rw [FileTree.find?_append, found] at entry
      cases entry
  | @directory entries distinct names below ih =>
    have each : ∀ e ∈ entries,
        goal ∈ walk (Level.ofDirectory place (.directory entries) :: levelsAbove tree place)
          showHidden (place ++ [e.1]) e.2 ↔ Finds tree showHidden (place ++ [e.1]) goal := by
      intro e mem
      rw [← levelsAbove_concat found e.1]
      exact ih e mem ((find?_entry found distinct).mpr mem)
    rw [walk, walkEntries_eq, List.mem_flatMap]
    constructor
    · rintro ⟨e, mem, within⟩
      obtain ⟨mem, stays⟩ := List.mem_filter.mp mem
      obtain ⟨reaches, file⟩ := (each e mem).mp within
      refine ⟨.head ⟨e.2, (find?_entry found distinct).mpr mem, ?_⟩ reaches, file⟩
      rw [levelsAbove_concat found]
      simpa using stays
    · rintro ⟨reaches, file⟩
      rcases reaches.cases_head with rfl | ⟨name, ⟨sub, entry, stays⟩, reaches⟩
      · obtain ⟨content, file⟩ := file
        rw [found] at file
        cases file
      · have mem := (find?_entry found distinct (e := (name, sub))).mp entry
        rw [levelsAbove_concat found] at stays
        exact ⟨(name, sub), List.mem_filter.mpr ⟨mem, by simpa using stays⟩,
          (each _ mem).mpr ⟨reaches, file⟩⟩

theorem prefix_of_mem_walk (named : sub.WellNamed) {levels : List Level}
    (mem : goal ∈ walk levels showHidden place sub) : place <+: goal := by
  induction named generalizing levels place with
  | file content =>
    rw [walk, List.mem_singleton] at mem
    exact mem ▸ List.prefix_rfl
  | directory distinct names below ih =>
    rw [walk, walkEntries_eq, List.mem_flatMap] at mem
    obtain ⟨e, mem, within⟩ := mem
    exact (List.prefix_append _ _).trans (ih e (List.mem_filter.mp mem).1 within)

/-- A walk finds no file twice. -/
theorem nodup_walk (named : sub.WellNamed) (levels : List Level) (place : List String) :
    (walk levels showHidden place sub).Nodup := by
  induction named generalizing levels place with
  | file content =>
    rw [walk]
    exact List.nodup_singleton _
  | @directory entries distinct names below ih =>
    rw [walk, walkEntries_eq, List.nodup_flatMap]
    refine ⟨fun e mem => ih e (List.mem_filter.mp mem).1 _ _, ?_⟩
    have apart : entries.Pairwise fun e e' => e.1 ≠ e'.1 := List.pairwise_map.mp distinct
    refine (apart.imp_of_mem fun {e e'} mem mem' apart => ?_).filter _
    intro goal within within'
    have front := prefix_of_mem_walk (below e mem) within
    have front' := prefix_of_mem_walk (below e' mem') within'
    have long : (place ++ [e.1]).length = (place ++ [e'.1]).length := by simp
    have same := (List.prefix_of_prefix_length_le front front' long.le).eq_of_length long
    exact apart (List.singleton_inj.mp (List.append_cancel_left same))

/-- **The files that a walk finds are those that it gets to.** -/
theorem mem_filesBelow_iff (named : tree.WellNamed) :
    goal ∈ filesBelow tree showHidden root ↔ Finds tree showHidden root goal := by
  rw [filesBelow]
  split
  next directory found => exact mem_walk_iff (named.find? found) found
  next none_ =>
    refine iff_of_false (List.not_mem_nil) ?_
    rintro ⟨reaches, content, found⟩
    obtain ⟨below, rfl⟩ := reaches.prefix_
    rw [FileTree.find?_append, none_] at found
    cases found

theorem nodup_filesBelow (named : tree.WellNamed) (showHidden : Bool) (root : List String) :
    (filesBelow tree showHidden root).Nodup := by
  rw [filesBelow]
  split
  next directory found => exact nodup_walk (named.find? found) _ _
  next => exact List.nodup_nil

/-- **A walk finds the same files in whatever order directories are listed.** -/
theorem perm_filesBelow (named : tree.WellNamed) (named' : tree'.WellNamed)
    (alike : tree.Alike tree') (showHidden : Bool) (root : List String) :
    (filesBelow tree showHidden root).Perm (filesBelow tree' showHidden root) := by
  rw [List.perm_ext_iff_of_nodup (nodup_filesBelow named _ _) (nodup_filesBelow named' _ _)]
  intro goal
  rw [mem_filesBelow_iff named, mem_filesBelow_iff named', finds_iff_of_alike alike]

end Ignore
end CodeGloss
