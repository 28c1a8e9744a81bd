import CodeGloss.Proofs.Files.Paths
import CodeGloss.Proofs.Files.Walk
import CodeGloss.Proofs.Scan.Workers
import CodeGloss.Scan

/-!
# What a request is about

Here it is said without any search which files a path of a request stands for (`Scan.Selects`), and what
is to be reported about a file by itself (`Scan.Tells`): its name in its directory and its bytes are all
that counts.  What can be seen on the disk decides both, and not how its directories are listed
(`Scan.selects_iff_of_relisted`, `Scan.reports_iff_of_relisted`).

The files that are looked up for a path are those, each of them once (`Scan.exists_filesAt`), and the
report on each of them is the one that is to be (`Scan.reportOn_of_reports`), whatever path leads to it.
-/

namespace CodeGloss
namespace Scan

open FileTree (WellNamed)
open Ignore (Finds filesBelow)

variable {options : Block.Options} {request : ScanRequest} {disk disk' : Disk} {globs : List Glob}
  {path name shown : String} {place : List String} {content : ByteArray} {r r' : FileReport}

/-! ## One file -/

/-- The language that is looked for in a file: the one of the request or else that of the extension. -/
def hintFor (request : ScanRequest) (name : String) : Hint :=
  request.language <|> (Path.nameExtension? name).elim none Hint.parseLenient

/-- What is to be said about a file, by its name and its bytes. -/
inductive Tells (options : Block.Options) (request : ScanRequest) (name : String)
    (content : ByteArray) (shown : String) : FileReport → Prop
  /-- A large file is skipped. -/
  | large (size : request.maxFileSize < content.size) :
      Tells options request name content shown ⟨shown, hintFor request name, some .largeFile, []⟩
  /-- So is one that is no text. -/
  | binary (size : content.size ≤ request.maxFileSize) (zero : isBinary content = true) :
      Tells options request name content shown ⟨shown, hintFor request name, some .binaryFile, []⟩
  /-- Of any other the definitions in its text are reported. -/
  | text {text : String} (size : content.size ≤ request.maxFileSize)
      (plain : isBinary content = false) (spells : content = text.toUTF8) :
      Tells options request name content shown
        ⟨shown, hintFor request name, none,
          (Outline.ofText options (hintFor request name) text).definitions⟩

theorem Tells.path_eq (tells : Tells options request name content shown r) : r.path = shown := by
  cases tells <;> rfl

/-- There is one thing to be said about a file. -/
theorem Tells.unique (tells : Tells options request name content shown r)
    (tells' : Tells options request name content shown r') : r = r' := by
  cases tells with
  | large size =>
    cases tells' with
    | large => rfl
    | binary size' => exact absurd size (Nat.not_lt.mpr size')
    | text size' => exact absurd size (Nat.not_lt.mpr size')
  | binary size zero =>
    cases tells' with
    | large size' => exact absurd size' (Nat.not_lt.mpr size)
    | binary => rfl
    | text size' plain => cases zero.symm.trans plain
  | text size plain spells =>
    cases tells' with
    | large size' => exact absurd size' (Nat.not_lt.mpr size)
    | binary size' zero => cases zero.symm.trans plain
    | text size' plain' spells' =>
      have same := congrArg String.fromUTF8? (spells.symm.trans spells')
      rw [Disk.fromUTF8?_toUTF8, Disk.fromUTF8?_toUTF8] at same
      rw [Option.some.inj same]

/-- Whether a file is skipped or a text. -/
def Readable (request : ScanRequest) (content : ByteArray) : Prop :=
  request.maxFileSize < content.size ∨ isBinary content = true ∨
    ∃ text : String, content = text.toUTF8

theorem Readable.exists_tells (readable : Readable request content) (options : Block.Options)
    (name shown : String) : ∃ r, Tells options request name content shown r := by
  by_cases size : request.maxFileSize < content.size
  · exact ⟨_, .large size⟩
  · rw [Nat.not_lt] at size
    cases zero : isBinary content with
    | true => exact ⟨_, .binary size zero⟩
    | false =>
      rcases readable with large | binary | ⟨text, spells⟩
      · exact absurd large (Nat.not_lt.mpr size)
      · cases zero.symm.trans binary
      · exact ⟨_, .text size zero spells⟩

theorem ofPath_of_fileName? (named : Path.fileName? path = some name) :
    Hint.ofPath path = (Path.nameExtension? name).elim none Hint.parseLenient := by
  rw [Hint.ofPath, Path.extension?, named, Option.bind_some]
  cases Path.nameExtension? name <;> rfl

/-- A file that is read by a path is reported as it is to be. -/
theorem reportOn_eq_ok (named : Path.fileName? path = some name)
    (reads : disk.readBytes path = .ok content)
    (tells : Tells options request name content shown r) :
    reportOn options request disk path shown = .ok r := by
  rw [reportOn, ofPath_of_fileName? named, reads]
  simp only [Fault.during, bind, Except.bind, pure, Except.pure]
  cases tells with
  | large size =>
    rw [if_pos size]
    rfl
  | binary size zero =>
    rw [if_neg (Nat.not_lt.mpr size), if_pos zero]
    rfl
  | text size plain spells =>
    subst spells
    rw [if_neg (Nat.not_lt.mpr size), if_neg (Bool.eq_false_iff.mp plain),
      Disk.readText_of_readBytes reads]
    rfl

/-! ## Files on a disk -/

/-- A file that is to be reported on. -/
structure Selected where
  /-- Where it is. -/
  place : List String
  /-- The text to show for its path. -/
  shown : String
deriving DecidableEq

variable {f : Selected}

/-- Whether a report is the one on a file. -/
def Reports (options : Block.Options) (request : ScanRequest) (disk : Disk) (f : Selected)
    (r : FileReport) : Prop :=
  ∃ parent name content, f.place = parent ++ [name] ∧
    disk.tree.find? f.place = some (.file content) ∧ Tells options request name content f.shown r

theorem Reports.path_eq (reports : Reports options request disk f r) : r.path = f.shown := by
  obtain ⟨_, _, _, -, -, tells⟩ := reports
  exact tells.path_eq

theorem Reports.unique (reports : Reports options request disk f r)
    (reports' : Reports options request disk f r') : r = r' := by
  obtain ⟨parent, name, content, place_eq, found, tells⟩ := reports
  obtain ⟨parent', name', content', place_eq', found', tells'⟩ := reports'
  obtain ⟨-, same⟩ := List.append_inj' (place_eq.symm.trans place_eq') rfl
  cases same
  cases found.symm.trans found'
  exact tells.unique tells'

theorem reports_iff_of_relisted (again : disk.Relisted disk') :
    Reports options request disk' f r ↔ Reports options request disk f r := by
  simp only [Reports, again.alike.find?_eq_file_iff]

/-- **A file is reported on as it is to be, whatever path leads there.** -/
theorem reportOn_of_reports (leads : disk.resolve path = .ok f.place)
    (reports : Reports options request disk f r) :
    reportOn options request disk path f.shown = .ok r := by
  obtain ⟨parent, name, content, place_eq, found, tells⟩ := reports
  obtain ⟨above, parent', name', pieces, named, place_eq'⟩ := Disk.exists_pieces_of_file leads found
  obtain ⟨-, same⟩ := List.append_inj' (place_eq'.symm.trans place_eq) rfl
  cases same
  exact reportOn_eq_ok (Path.fileName?_of_pieces pieces named)
    (Disk.readBytes_of_resolve leads found) tells

theorem exists_reports (leads : disk.resolve path = .ok f.place)
    (found : disk.tree.find? f.place = some (.file content)) (readable : Readable request content)
    (options : Block.Options) : ∃ r, Reports options request disk f r := by
  obtain ⟨-, parent, name, -, -, place_eq⟩ := Disk.exists_pieces_of_file leads found
  obtain ⟨r, tells⟩ := readable.exists_tells options name f.shown
  exact ⟨r, parent, name, content, place_eq, found, tells⟩

/-! ## Patterns -/

/-- Whether a path fits the patterns of a request. -/
def Fits (request : ScanRequest) (shown : String) : Prop :=
  request.globs = [] ∨ ∃ pattern ∈ request.globs, ∃ glob,
    Glob.read? pattern = some glob ∧ glob.isMatch false shown = true

/-- The patterns of a request are read one by one. -/
theorem readGlobs_eq_ok_iff {patterns : List String} :
    readGlobs patterns = .ok globs ↔ patterns.map Glob.read? = globs.map some := by
  rw [readGlobs, mapM_eq_ok_iff]
  induction patterns generalizing globs with
  | nil => cases globs <;> simp
  | cons pattern patterns ih =>
    cases globs with
    | nil => simp
    | cons glob globs =>
      rw [List.map_cons, List.map_cons, List.map_cons, List.map_cons, List.cons.injEq,
        List.cons.injEq, ih]
      refine and_congr ?_ Iff.rfl
      cases Glob.read? pattern <;> simp

theorem exists_readGlobs {patterns : List String}
    (valid : ∀ pattern ∈ patterns, (Glob.read? pattern).isSome) :
    ∃ globs, readGlobs patterns = .ok globs := by
  induction patterns with
  | nil => exact ⟨[], rfl⟩
  | cons pattern patterns ih =>
    obtain ⟨first, others⟩ := List.forall_mem_cons.mp valid
    obtain ⟨glob, read⟩ := Option.isSome_iff_exists.mp first
    obtain ⟨globs, rest⟩ := ih others
    rw [readGlobs_eq_ok_iff] at rest
    exact ⟨glob :: globs, readGlobs_eq_ok_iff.mpr (by rw [List.map_cons, read, rest]; rfl)⟩

theorem fits_iff (reads : readGlobs request.globs = .ok globs) (shown : String) :
    (globs.isEmpty || globs.any fun g => g.isMatch false shown) = true ↔ Fits request shown := by
  rw [readGlobs_eq_ok_iff] at reads
  have empty : globs = [] ↔ request.globs = [] := by
    rw [← List.map_eq_nil_iff (f := some), ← reads, List.map_eq_nil_iff]
  have mem : ∀ glob, glob ∈ globs ↔ ∃ pattern ∈ request.globs, Glob.read? pattern = some glob := by
    intro glob
    rw [← List.mem_map, reads]
    simp
  rw [Fits, Bool.or_eq_true, List.isEmpty_iff, empty, List.any_eq_true]
  refine or_congr Iff.rfl ?_
  simp only [mem]
  constructor
  · rintro ⟨glob, ⟨pattern, mem, read⟩, fits⟩
    exact ⟨pattern, mem, glob, read, fits⟩
  · rintro ⟨pattern, mem, glob, read, fits⟩
    exact ⟨glob, ⟨pattern, mem, read⟩, fits⟩

/-! ## Paths -/

/-- Which files a path of a request stands for. -/
inductive Selects (request : ScanRequest) (disk : Disk) (path : String) : Selected → Prop
  /-- A file that the path leads to, whatever the patterns are. -/
  | named {place : List String} {content : ByteArray} (leads : disk.resolve path = .ok place)
      (found : disk.tree.find? place = some (.file content)) :
      Selects request disk path ⟨place, Path.text path⟩
  /-- A file that a walk finds below a directory that the path leads to, if it fits from there. -/
  | walked {root below : List String} (leads : disk.resolve path = .ok root)
      (holds : disk.holdsDirectory root = true)
      (finds : Finds disk.tree request.showHidden root (root ++ below))
      (fits : Fits request ("/".intercalate below)) :
      Selects request disk path ⟨root ++ below, Path.text ("/".intercalate below)⟩

/-- What is selected is a file. -/
theorem Selects.exists_find? (selects : Selects request disk path f) :
    ∃ content, disk.tree.find? f.place = some (.file content) := by
  cases selects with
  | named leads found => exact ⟨_, found⟩
  | walked leads holds finds fits => exact finds.2

theorem Selects.of_relisted (again : disk.Relisted disk') (selects : Selects request disk path f) :
    Selects request disk' path f := by
  cases selects with
  | named leads found =>
    exact .named ((again.resolve_eq path).trans leads) (again.alike.find?_eq_file_iff.mp found)
  | walked leads holds finds fits =>
    refine .walked ((again.resolve_eq path).trans leads) ?_ (finds.of_alike again.alike) fits
    obtain ⟨entries, found⟩ := Disk.holdsDirectory_eq_true_iff.mp holds
    have seen := FileTree.sight_eq_directory_iff.mpr ⟨entries, found⟩
    rw [again.alike] at seen
    exact Disk.holdsDirectory_eq_true_iff.mpr (FileTree.sight_eq_directory_iff.mp seen)

/-- What can be seen decides what is selected. -/
theorem selects_iff_of_relisted (named : disk.tree.WellNamed) (again : disk.Relisted disk') :
    Selects request disk' path f ↔ Selects request disk path f :=
  ⟨.of_relisted ⟨again.here.symm, again.alike.symm, named⟩, .of_relisted again⟩

/-- Whether some files are those that a path stands for, each of them once. -/
structure Covers (request : ScanRequest) (disk : Disk) (path : String)
    (selected : List Selected) : Prop where
  /-- No file comes twice. -/
  distinct : selected.Nodup
  /-- They are the files that the path stands for. -/
  mem_iff : ∀ f, f ∈ selected ↔ Selects request disk path f

/-- The files that a path stands for are the same in some order. -/
theorem Covers.perm {selected selected' : List Selected} (covers : Covers request disk path selected)
    (covers' : Covers request disk path selected') : selected.Perm selected' := by
  rw [List.perm_ext_iff_of_nodup covers.distinct covers'.distinct]
  intro f
  rw [covers.mem_iff, covers'.mem_iff]

/-- Whether a file that was looked up, with the path to show, is the one that was selected. -/
def LeadsTo (disk : Disk) (file : String × String) (f : Selected) : Prop :=
  disk.resolve file.1 = .ok f.place ∧ file.2 = f.shown

theorem LeadsTo.unique {file : String × String} {f f' : Selected} (leads : LeadsTo disk file f)
    (leads' : LeadsTo disk file f') : f = f' := by
  cases f
  cases f'
  cases leads.1.symm.trans leads'.1
  cases leads.2.symm.trans leads'.2
  rfl

theorem exists_filesAt_file (leads : disk.resolve path = .ok place)
    (found : disk.tree.find? place = some (.file content)) (request : ScanRequest)
    (globs : List Glob) :
    filesAt request globs disk path = .ok [(path, Path.text path)] ∧
      Covers request disk path [⟨place, Path.text path⟩] := by
  constructor
  · rw [filesAt, Disk.open?_eq, leads, Except.bind, found]
    rfl
  · refine ⟨List.nodup_singleton _, fun f => ?_⟩
    rw [List.mem_singleton]
    constructor
    · rintro rfl
      exact .named leads found
    · intro selects
      cases selects with
      | named leads' =>
        cases leads.symm.trans leads'
        rfl
      | walked leads' holds =>
        cases leads.symm.trans leads'
        rw [Disk.holdsDirectory, found] at holds
        cases holds

/-! ## Directories -/

/-- The path of a place from a directory above it. -/
def pathFrom (root goal : List String) : String :=
  "/".intercalate (goal.drop root.length)

theorem pathFrom_append (root below : List String) :
    pathFrom root (root ++ below) = "/".intercalate below := by
  rw [pathFrom, List.drop_left]

/-- The places of the files below a directory that are looked up. -/
def goalsBelow (request : ScanRequest) (globs : List Glob) (disk : Disk) (root : List String) :
    List (List String) :=
  (filesBelow disk.tree request.showHidden root).filter fun goal =>
    globs.isEmpty || globs.any fun g => g.isMatch false (pathFrom root goal)

theorem mem_goalsBelow_iff (named : disk.tree.WellNamed)
    (reads : readGlobs request.globs = .ok globs) {root goal : List String} :
    goal ∈ goalsBelow request globs disk root ↔
      Finds disk.tree request.showHidden root goal ∧ Fits request (pathFrom root goal) := by
  rw [goalsBelow, List.mem_filter, Ignore.mem_filesBelow_iff named, fits_iff reads]

theorem filesAt_of_directory (leads : disk.resolve path = .ok place)
    (holds : disk.holdsDirectory place = true) :
    filesAt request globs disk path = .ok ((goalsBelow request globs disk place).map fun goal =>
      (Path.join path (pathFrom place goal), Path.text (pathFrom place goal))) := by
  obtain ⟨entries, found⟩ := Disk.holdsDirectory_eq_true_iff.mp holds
  rw [filesAt, Disk.open?_eq, leads, Except.bind, found, goalsBelow]
  simp only [Option.elim, List.filter_map, List.map_map]
  rfl

/-- Below a directory there is a way down to every file that is found. -/
theorem exists_below {root goal : List String} (holds : disk.holdsDirectory root = true)
    (finds : Finds disk.tree request.showHidden root goal) :
    ∃ below, goal = root ++ below ∧ below ≠ [] := by
  obtain ⟨reaches, content, found⟩ := finds
  obtain ⟨below, rfl⟩ := reaches.prefix_
  refine ⟨below, rfl, ?_⟩
  rintro rfl
  rw [List.append_nil] at found
  rw [Disk.holdsDirectory, found] at holds
  cases holds

/-- The path that is read for a file below a directory leads to it. -/
theorem resolve_pathFrom (named : disk.tree.WellNamed) (leads : disk.resolve path = .ok place)
    (holds : disk.holdsDirectory place = true) {goal : List String}
    (finds : Finds disk.tree request.showHidden place goal) :
    disk.resolve (Path.join path (pathFrom place goal)) = .ok goal := by
  obtain ⟨below, rfl, some_⟩ := exists_below holds finds
  obtain ⟨-, content, found⟩ := finds
  have there : (disk.tree.find? (place ++ below)).isSome := by
    rw [found, Option.isSome_some]
  rw [pathFrom_append]
  exact Disk.resolve_join leads some_
    (fun name mem => named.isEntryName there name (List.mem_append_right _ mem)) there

/-- The files that are looked up below a directory are those that its path stands for. -/
theorem covers_goalsBelow (named : disk.tree.WellNamed)
    (reads : readGlobs request.globs = .ok globs) (leads : disk.resolve path = .ok place)
    (holds : disk.holdsDirectory place = true) :
    Covers request disk path
      ((goalsBelow request globs disk place).map fun goal =>
        ⟨goal, Path.text (pathFrom place goal)⟩) := by
  refine ⟨?_, fun f => ?_⟩
  · have distinct := (Ignore.nodup_filesBelow named request.showHidden place).filter fun goal =>
      globs.isEmpty || globs.any fun g => g.isMatch false (pathFrom place goal)
    exact distinct.map fun goal goal' same => congrArg Selected.place same
  · rw [List.mem_map]
    constructor
    · rintro ⟨goal, mem, rfl⟩
      obtain ⟨finds, fits⟩ := (mem_goalsBelow_iff named reads).mp mem
      obtain ⟨below, rfl, -⟩ := exists_below holds finds
      rw [pathFrom_append] at fits ⊢
      exact .walked leads holds finds fits
    · intro selects
      cases selects with
      | named leads' found =>
        cases leads.symm.trans leads'
        rw [Disk.holdsDirectory, found] at holds
        cases holds
      | @walked root below leads' holds' finds fits =>
        cases leads.symm.trans leads'
        rw [← pathFrom_append place below] at fits ⊢
        exact ⟨place ++ below, (mem_goalsBelow_iff named reads).mpr ⟨finds, fits⟩, rfl⟩

/-- A path that leads to something leads to a place where something is. -/
theorem has_eq_true_iff :
    disk.has path = true ↔ ∃ place tree, disk.resolve path = .ok place ∧
      disk.tree.find? place = some tree := by
  rw [Disk.has, Disk.open?_eq]
  cases disk.resolve path with
  | error fault => simp [Except.bind, Except.isOk, Except.toBool]
  | ok place =>
    cases found : disk.tree.find? place <;> simp [Except.bind, Except.isOk, Except.toBool, found]

theorem has_of_relisted (again : disk.Relisted disk') (there : disk.has path = true) :
    disk'.has path = true := by
  obtain ⟨place, tree, leads, found⟩ := has_eq_true_iff.mp there
  obtain ⟨tree', found', -⟩ := again.alike.exists_find? found
  exact has_eq_true_iff.mpr ⟨place, tree', (again.resolve_eq path).trans leads, found'⟩

/-- **The files that are looked up for a path are those that it stands for**, each of them once. -/
theorem exists_filesAt (named : disk.tree.WellNamed) (reads : readGlobs request.globs = .ok globs)
    (there : disk.has path = true) :
    ∃ files selected, filesAt request globs disk path = .ok files ∧
      files.Forall₂ (LeadsTo disk) selected ∧ Covers request disk path selected := by
  obtain ⟨place, tree, leads, found⟩ := has_eq_true_iff.mp there
  cases tree with
  | file content =>
    obtain ⟨looked_up, covers⟩ := exists_filesAt_file leads found request globs
    exact ⟨_, _, looked_up, .cons ⟨leads, rfl⟩ .nil, covers⟩
  | directory entries =>
    have holds := Disk.holdsDirectory_eq_true_iff.mpr ⟨entries, found⟩
    refine ⟨_, _, filesAt_of_directory leads holds, ?_, covers_goalsBelow named reads leads holds⟩
    rw [List.forall₂_map_left_iff, List.forall₂_map_right_iff, List.forall₂_same]
    intro goal mem
    exact ⟨resolve_pathFrom named leads holds ((mem_goalsBelow_iff named reads).mp mem).1, rfl⟩

/-- What is on the right of two lists belongs to something on the left. -/
theorem exists_of_mem_forall₂ {α β : Type} {R : α → β → Prop} {l : List α} {l' : List β}
    (related : l.Forall₂ R l') {b : β} (mem : b ∈ l') : ∃ a ∈ l, R a b := by
  induction related with
  | nil => cases mem
  | @cons a b' l l' here rest ih =>
    rcases List.mem_cons.mp mem with rfl | mem
    · exact ⟨a, List.mem_cons_self, here⟩
    · obtain ⟨a', mem', here'⟩ := ih mem
      exact ⟨a', List.mem_cons_of_mem a mem', here'⟩

/-- What a path stands for can be told from what is looked up for it. -/
theorem selects_iff_of_filesAt (named : disk.tree.WellNamed)
    (reads : readGlobs request.globs = .ok globs) (there : disk.has path = true)
    {files : List (String × String)} (looked : filesAt request globs disk path = .ok files) :
    Selects request disk path f ↔ ∃ file ∈ files, LeadsTo disk file f := by
  obtain ⟨files', selected, looked', leads, covers⟩ := exists_filesAt named reads there
  cases looked.symm.trans looked'
  rw [← covers.mem_iff]
  constructor
  · exact exists_of_mem_forall₂ leads
  · rintro ⟨file, mem, leads_to⟩
    obtain ⟨f', mem', leads_to'⟩ := exists_of_mem_forall₂ leads.flip mem
    rwa [leads_to.unique leads_to']

end Scan
end CodeGloss
