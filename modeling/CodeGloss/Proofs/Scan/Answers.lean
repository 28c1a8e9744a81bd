import CodeGloss.Proofs.Scan.Selection
import Mathlib.Data.List.Perm.Basic
import Mathlib.Data.List.Nodup

/-!
# Answers to a request

A scan has to come to one report for each file that a path of the request stands for, ordered by the
path that is shown (`Scan.Answers`).  If no two files show the same path there is only one such list
(`Scan.Answers.unique`), and it neither depends on the order of the paths nor on that of the entries in
a directory (`Scan.Answers.of_perm`).

A file that two of the paths stand for is reported on for each of them.  If there is none, no path is
shown twice (`Scan.Answers.strict`).
-/

namespace CodeGloss
namespace Scan

variable {options : Block.Options} {request : ScanRequest} {disk disk' : Disk} {globs : List Glob}
  {paths paths' : List String} {selected selected' : List Selected}
  {reports reports' : List FileReport}

/-! ## Answers -/

/-- Whether some files are those that the paths of a request stand for, for each path once. -/
def Selection (request : ScanRequest) (disk : Disk) (selected : List Selected) : Prop :=
  ∃ groups, request.paths.Forall₂ (Covers request disk) groups ∧ selected.Perm groups.flatten

/-- What a scan has to come to. -/
structure Answers (options : Block.Options) (request : ScanRequest) (disk : Disk)
    (reports : List FileReport) : Prop where
  /-- The reports are ordered by path. -/
  ordered : reports.Pairwise fun r r' => r.path ≤ r'.path
  /-- Each file that is selected has its report. -/
  complete : ∃ selected, Selection request disk selected ∧
    selected.Forall₂ (Reports options request disk) reports

/-- Whether no two files that a request is about show the same path. -/
def Apart (request : ScanRequest) (disk : Disk) : Prop :=
  ∀ path ∈ request.paths, ∀ path' ∈ request.paths, ∀ f f',
    Selects request disk path f → Selects request disk path' f' → f.shown = f'.shown → f = f'

/-- What is selected is selected by one of the paths. -/
theorem Selection.exists_selects (selection : Selection request disk selected) {f : Selected}
    (mem : f ∈ selected) : ∃ path ∈ request.paths, Selects request disk path f := by
  obtain ⟨groups, covers, perm⟩ := selection
  obtain ⟨group, mem_group, mem⟩ := List.mem_flatten.mp (perm.mem_iff.mp mem)
  obtain ⟨path, mem_path, covers⟩ := exists_of_mem_forall₂ covers mem_group
  exact ⟨path, mem_path, (covers.mem_iff f).mp mem⟩

theorem perm_flatten_of_covers {groups groups' : List (List Selected)}
    (covers : paths.Forall₂ (Covers request disk) groups)
    (covers' : paths.Forall₂ (Covers request disk) groups') :
    groups.flatten.Perm groups'.flatten := by
  induction covers generalizing groups' with
  | nil =>
    cases covers'
    exact .refl _
  | cons here rest ih =>
    cases covers' with
    | cons here' rest' => exact (here.perm here').append (ih rest')

/-- What is selected is the same in some order. -/
theorem Selection.perm (selection : Selection request disk selected)
    (selection' : Selection request disk selected') : selected.Perm selected' := by
  obtain ⟨groups, covers, perm⟩ := selection
  obtain ⟨groups', covers', perm'⟩ := selection'
  exact perm.trans ((perm_flatten_of_covers covers covers').trans perm'.symm)

theorem map_path_eq (complete : selected.Forall₂ (Reports options request disk) reports) :
    reports.map FileReport.path = selected.map Selected.shown := by
  induction complete with
  | nil => rfl
  | cons here _ ih => rw [List.map_cons, List.map_cons, here.path_eq, ih]

theorem eq_of_reports {reports' : List FileReport}
    (complete : selected.Forall₂ (Reports options request disk) reports)
    (complete' : selected.Forall₂ (Reports options request disk) reports') : reports = reports' :=
  List.right_unique_forall₂' (fun _ _ _ here here' => here.unique here') complete complete'

/-- **There is one answer to a request** if no two files show the same path. -/
theorem Answers.unique (apart : Apart request disk)
    (answers : Answers options request disk reports)
    (answers' : Answers options request disk reports') : reports = reports' := by
  obtain ⟨selected, selection, complete⟩ := answers.complete
  obtain ⟨selected', selection', complete'⟩ := answers'.complete
  -- The reports are the same in some order, since the files are.
  have perm : reports.Perm reports' := by
    obtain ⟨between, related, perm⟩ :=
      List.perm_comp_forall₂ (selection.perm selection') complete'
    rwa [eq_of_reports related complete] at perm
  refine List.Perm.eq_of_pairwise (fun r r' mem mem' le le' => ?_) answers.ordered
    answers'.ordered perm
  obtain ⟨f, mem_f, here⟩ := exists_of_mem_forall₂ complete mem
  obtain ⟨f', mem_f', here'⟩ := exists_of_mem_forall₂ complete' mem'
  obtain ⟨path, mem_path, selects⟩ := selection.exists_selects mem_f
  obtain ⟨path', mem_path', selects'⟩ := selection'.exists_selects mem_f'
  have shown : f.shown = f'.shown := by
    rw [← here.path_eq, ← here'.path_eq]
    exact String.le_antisymm le le'
  cases apart path mem_path path' mem_path' f f' selects selects' shown
  exact here.unique here'

/-- Whether no file is selected by two of the paths of a request. -/
def Separate (request : ScanRequest) (disk : Disk) : Prop :=
  request.paths.Pairwise fun path path' =>
    ∀ f, Selects request disk path f → ¬Selects request disk path' f

theorem nodup_flatten_of_covers {groups : List (List Selected)}
    (covers : paths.Forall₂ (Covers request disk) groups)
    (separate : paths.Pairwise fun path path' =>
      ∀ f, Selects request disk path f → ¬Selects request disk path' f) :
    groups.flatten.Nodup := by
  induction covers with
  | nil => exact List.nodup_nil
  | @cons path group paths groups here rest ih =>
    obtain ⟨apart, separate⟩ := List.pairwise_cons.mp separate
    rw [List.flatten_cons]
    refine List.Nodup.append here.distinct (ih separate) fun f mem mem' => ?_
    obtain ⟨group', mem_group, mem'⟩ := List.mem_flatten.mp mem'
    obtain ⟨path', mem_path, here'⟩ := exists_of_mem_forall₂ rest mem_group
    exact apart path' mem_path f ((here.mem_iff f).mp mem) ((here'.mem_iff f).mp mem')

/-- No path is shown twice if no file is selected twice. -/
theorem Answers.strict (answers : Answers options request disk reports)
    (apart : Apart request disk) (separate : Separate request disk) :
    reports.Pairwise fun r r' => r.path < r'.path := by
  obtain ⟨selected, selection, complete⟩ := answers.complete
  have distinct : selected.Nodup := by
    obtain ⟨groups, covers, perm⟩ := selection
    exact perm.nodup_iff.mpr (nodup_flatten_of_covers covers separate)
  have shown : (reports.map FileReport.path).Nodup := by
    rw [map_path_eq complete]
    refine List.Nodup.map_on (fun f mem f' mem' same => ?_) distinct
    obtain ⟨path, mem_path, selects⟩ := selection.exists_selects mem
    obtain ⟨path', mem_path', selects'⟩ := selection.exists_selects mem'
    exact apart path mem_path path' mem_path' f f' selects selects' same
  exact answers.ordered.imp₂ (fun _ _ le ne => Std.lt_of_le_of_ne le ne)
    (List.pairwise_map.mp shown)

/-- Whether no two files show the same path can be told from what is looked up. -/
theorem apart_of_filesAt (named : disk.tree.WellNamed) (reads : readGlobs request.globs = .ok globs)
    (there : ∀ path ∈ request.paths, disk.has path = true)
    {files : String → List (String × String)}
    (looked : ∀ path ∈ request.paths, filesAt request globs disk path = .ok (files path))
    (distinct : ∀ path ∈ request.paths, ∀ path' ∈ request.paths, ∀ file ∈ files path,
      ∀ file' ∈ files path', file.2 = file'.2 → file = file') : Apart request disk := by
  intro path mem path' mem' f f' selects selects' shown
  obtain ⟨file, mem_file, leads⟩ :=
    (selects_iff_of_filesAt named reads (there path mem) (looked path mem)).mp selects
  obtain ⟨file', mem_file', leads'⟩ :=
    (selects_iff_of_filesAt named reads (there path' mem') (looked path' mem')).mp selects'
  have same := distinct path mem path' mem' file mem_file file' mem_file'
    (leads.2.trans (shown.trans leads'.2.symm))
  exact leads.unique (same ▸ leads')

/-! ## Paths in another order -/

theorem selects_paths_iff {path : String} {f : Selected} :
    Selects { request with paths := paths' } disk path f ↔ Selects request disk path f := by
  constructor
  · intro selects
    cases selects with
    | named leads found => exact .named leads found
    | walked leads holds finds fits => exact .walked leads holds finds fits
  · intro selects
    cases selects with
    | named leads found => exact .named leads found
    | walked leads holds finds fits => exact .walked leads holds finds fits

theorem tells_paths_iff {name shown : String} {content : ByteArray} {r : FileReport} :
    Tells options { request with paths := paths' } name content shown r ↔
      Tells options request name content shown r := by
  constructor
  · intro tells
    cases tells with
    | large size => exact .large size
    | binary size zero => exact .binary size zero
    | text size plain spells => exact .text size plain spells
  · intro tells
    cases tells with
    | large size => exact .large size
    | binary size zero => exact .binary size zero
    | text size plain spells => exact .text size plain spells

theorem covers_iff (named : disk.tree.WellNamed) (again : disk.Relisted disk') {path : String} :
    Covers { request with paths := paths' } disk' path selected ↔
      Covers request disk path selected := by
  have same : ∀ f, Selects { request with paths := paths' } disk' path f ↔
      Selects request disk path f := fun f =>
    selects_paths_iff.trans (selects_iff_of_relisted named again)
  constructor
  · rintro ⟨distinct, mem_iff⟩
    exact ⟨distinct, fun f => (mem_iff f).trans (same f)⟩
  · rintro ⟨distinct, mem_iff⟩
    exact ⟨distinct, fun f => (mem_iff f).trans (same f).symm⟩

theorem reports_iff (again : disk.Relisted disk') {f : Selected} {r : FileReport} :
    Reports options { request with paths := paths' } disk' f r ↔
      Reports options request disk f r := by
  rw [reports_iff_of_relisted again]
  simp only [Reports, tells_paths_iff]

theorem selection_of_perm (named : disk.tree.WellNamed) (again : disk.Relisted disk')
    (perm : request.paths.Perm paths')
    (selection : Selection { request with paths := paths' } disk' selected) :
    Selection request disk selected := by
  obtain ⟨groups, covers, perm_flatten⟩ := selection
  have covers' : paths'.Forall₂ (Covers request disk) groups :=
    covers.imp fun _ _ here => (covers_iff named again).mp here
  obtain ⟨groups', covers, perm_groups⟩ := List.perm_comp_forall₂ perm covers'
  exact ⟨groups', covers, perm_flatten.trans perm_groups.flatten.symm⟩

/-- **The order of paths and of entries says nothing about the answer.** -/
theorem Answers.of_perm (named : disk.tree.WellNamed) (again : disk.Relisted disk')
    (perm : request.paths.Perm paths')
    (answers : Answers options { request with paths := paths' } disk' reports) :
    Answers options request disk reports := by
  obtain ⟨selected, selection, complete⟩ := answers.complete
  exact ⟨answers.ordered, selected, selection_of_perm named again perm selection,
    complete.imp fun _ _ here => (reports_iff again).mp here⟩

end Scan
end CodeGloss
