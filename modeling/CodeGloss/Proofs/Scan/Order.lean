import CodeGloss.Proofs.Scan.Answers

/-!
# Scans in any order

A scan may take its time in many ways.  Directories are listed in some order, which may be another one
each time, and several files are looked into at once (`Scan.Outcome`).  To work through the files one by
one is one of the ways (`Scan.outcome_run`).

Whatever happens, a scan of a request that can be answered (`Scan.Answerable`) comes to an answer
(`Scan.Outcome.answers`).  As there is only one, neither the order of the paths nor that of the entries
nor that of the work makes a difference (`Scan.scan_is_the_same_in_any_order`).
-/

namespace CodeGloss
namespace Scan

variable {options : Block.Options} {request : ScanRequest} {disk disk' : Disk} {globs : List Glob}
  {path : String} {paths paths' : List String} {groups : List (List (String × String))}
  {outcome : Except Report (List FileReport)}

/-! ## Ways to scan -/

/-- Whether some files are those that are looked up for a path when directories are listed in some
order. -/
def LooksUp (request : ScanRequest) (globs : List Glob) (disk : Disk) (path : String)
    (files : List (String × String)) : Prop :=
  ∃ disk', disk.Relisted disk' ∧ filesAt request globs disk' path = .ok files

/-- What there is to do about a file that was looked up. -/
def work (options : Block.Options) (request : ScanRequest) (disk : Disk) (file : String × String) :
    Except Report FileReport :=
  reportOn options request disk file.1 file.2

/-- What a scan may come to. -/
inductive Outcome (options : Block.Options) (request : ScanRequest) (disk : Disk) :
    Except Report (List FileReport) → Prop
  /-- A pattern cannot be read. -/
  | badPattern {report : Report} (fails : readGlobs request.globs = .error report) :
      Outcome options request disk (.error report)
  /-- There is nothing where a path leads to. -/
  | badPath {globs : List Glob} {disk' : Disk} {path : String} {report : Report}
      (reads : readGlobs request.globs = .ok globs) (mem : path ∈ request.paths)
      (again : disk.Relisted disk') (fails : filesAt request globs disk' path = .error report) :
      Outcome options request disk (.error report)
  /-- A file cannot be read, whatever has been done about the others. -/
  | badFile {globs : List Glob} {groups : List (List (String × String))}
      {slots : List (Slot (Except Report FileReport))} {report : Report}
      (reads : readGlobs request.globs = .ok globs)
      (looked : request.paths.Forall₂ (LooksUp request globs disk) groups)
      (run : Run (work options request disk) groups.flatten slots)
      (mem : .finished (.error report) ∈ slots) : Outcome options request disk (.error report)
  /-- All files are reported on.  The reports are ordered in the end. -/
  | done {globs : List Glob} {groups : List (List (String × String))} {reports : List FileReport}
      (reads : readGlobs request.globs = .ok globs)
      (looked : request.paths.Forall₂ (LooksUp request globs disk) groups)
      (run : Run (work options request disk) groups.flatten
        ((reports.map Except.ok).map Slot.finished)) :
      Outcome options request disk (.ok (reports.mergeSort fun a b => a.path ≤ b.path))

/-- To work through everything in order is a way to scan. -/
theorem outcome_run (named : disk.tree.WellNamed) (options : Block.Options) (request : ScanRequest) :
    Outcome options request disk (request.run options disk) := by
  rw [ScanRequest.run]
  cases reads : readGlobs request.globs with
  | error report => exact .badPattern reads
  | ok globs =>
    cases looked : request.paths.mapM (filesAt request globs disk) with
    | error report =>
      obtain ⟨path, mem, fails⟩ := exists_of_mapM_eq_error looked
      simp only [bind, Except.bind, looked]
      exact .badPath reads mem (.refl named) fails
    | ok groups =>
      have looked' : request.paths.Forall₂ (LooksUp request globs disk) groups := by
        have each := mapM_eq_ok_iff.mp looked
        have related : (request.paths.map (filesAt request globs disk)).Forall₂ Eq
            (groups.map .ok) := each ▸ List.forall₂_refl _
        rw [List.forall₂_map_left_iff, List.forall₂_map_right_iff] at related
        exact related.imp fun path files here => ⟨disk, .refl named, here⟩
      have finished := run_finished (work options request disk) groups.flatten
      cases worked : groups.flatten.mapM (work options request disk) with
      | error report =>
        obtain ⟨file, mem, fails⟩ := exists_of_mapM_eq_error worked
        simp only [bind, Except.bind, looked]
        unfold work at worked
        rw [worked]
        refine .badFile reads looked' finished (List.mem_map.mpr ⟨file, mem, ?_⟩)
        rw [fails]
      | ok reports =>
        have each := mapM_eq_ok_iff.mp worked
        simp only [bind, Except.bind, looked]
        unfold work at worked
        rw [worked]
        refine .done reads looked' ?_
        rw [← each, List.map_map]
        exact finished

/-! ## Every way leads to the answer -/

/-- Whether a request can be answered. -/
structure Answerable (request : ScanRequest) (disk : Disk) : Prop where
  /-- Every entry has a name of its own. -/
  named : disk.tree.WellNamed
  /-- All patterns can be read. -/
  patterns : ∀ pattern ∈ request.globs, (Glob.read? pattern).isSome
  /-- All paths lead to something. -/
  paths : ∀ path ∈ request.paths, disk.has path = true
  /-- All files that are selected are skipped or texts. -/
  readable : ∀ path ∈ request.paths, ∀ f content, Selects request disk path f →
    disk.tree.find? f.place = some (.file content) → Readable request content

theorem Answerable.of_perm (answerable : Answerable request disk) (again : disk.Relisted disk')
    (perm : request.paths.Perm paths') : Answerable { request with paths := paths' } disk' where
  named := again.named
  patterns := answerable.patterns
  paths path mem := has_of_relisted again (answerable.paths path (perm.mem_iff.mpr mem))
  readable path mem f content selects found := by
    have selects' := (selects_iff_of_relisted answerable.named again).mp
      (selects_paths_iff.mp selects)
    exact answerable.readable path (perm.mem_iff.mpr mem) f content selects'
      (again.alike.find?_eq_file_iff.mpr found)

/-- What is looked up for a path is what it stands for. -/
theorem exists_covers (reads : readGlobs request.globs = .ok globs) (named : disk.tree.WellNamed)
    (there : disk.has path = true) {files : List (String × String)}
    (looked : LooksUp request globs disk path files) :
    ∃ selected, files.Forall₂ (LeadsTo disk) selected ∧ Covers request disk path selected := by
  obtain ⟨disk', again, looked⟩ := looked
  obtain ⟨files', selected, looked', leads, covers⟩ :=
    exists_filesAt again.named reads (has_of_relisted again there)
  cases looked.symm.trans looked'
  refine ⟨selected, leads.imp fun _ _ here => ?_, covers.distinct, fun f => ?_⟩
  · exact ⟨(again.resolve_eq _).symm.trans here.1, here.2⟩
  · exact (covers.mem_iff f).trans (selects_iff_of_relisted named again)

theorem exists_selection (reads : readGlobs request.globs = .ok globs)
    (named : disk.tree.WellNamed) (there : ∀ path ∈ paths, disk.has path = true)
    (looked : paths.Forall₂ (LooksUp request globs disk) groups) :
    ∃ selected, groups.flatten.Forall₂ (LeadsTo disk) selected.flatten ∧
      paths.Forall₂ (Covers request disk) selected := by
  induction looked with
  | nil => exact ⟨[], .nil, .nil⟩
  | @cons path files paths groups here _ ih =>
    obtain ⟨first, others⟩ := List.forall_mem_cons.mp there
    obtain ⟨group, leads, covers⟩ := exists_covers reads named first here
    obtain ⟨selected, leads', covers'⟩ := ih others
    exact ⟨group :: selected, List.rel_append leads leads', .cons covers covers'⟩

/-- Every file that was looked up is reported on as it is to be. -/
theorem exists_forall₂_reports {files : List (String × String)} {selected : List Selected}
    (leads : files.Forall₂ (LeadsTo disk) selected)
    (readable : ∀ f ∈ selected, ∃ content, disk.tree.find? f.place = some (.file content) ∧
      Readable request content) (options : Block.Options) :
    ∃ reports, files.map (work options request disk) = reports.map .ok ∧
      selected.Forall₂ (Reports options request disk) reports := by
  induction leads with
  | nil => exact ⟨[], rfl, .nil⟩
  | @cons file f files selected here _ ih =>
    obtain ⟨⟨content, found, first⟩, others⟩ := List.forall_mem_cons.mp readable
    obtain ⟨r, is_report⟩ := exists_reports here.1 found first options
    obtain ⟨reports, each, complete⟩ := ih others
    refine ⟨r :: reports, ?_, .cons is_report complete⟩
    rw [List.map_cons, List.map_cons, each, work, here.2, reportOn_of_reports here.1 is_report]

/-- What was looked up for the paths of a request can all be reported on. -/
theorem Answerable.exists_reports (answerable : Answerable request disk)
    (reads : readGlobs request.globs = .ok globs)
    (looked : request.paths.Forall₂ (LooksUp request globs disk) groups)
    (options : Block.Options) :
    ∃ selected reports, Selection request disk selected ∧
      groups.flatten.map (work options request disk) = reports.map .ok ∧
      selected.Forall₂ (Reports options request disk) reports := by
  obtain ⟨selected, leads, covers⟩ :=
    exists_selection reads answerable.named answerable.paths looked
  have selection : Selection request disk selected.flatten := ⟨selected, covers, .refl _⟩
  have readable : ∀ f ∈ selected.flatten,
      ∃ content, disk.tree.find? f.place = some (.file content) ∧ Readable request content := by
    intro f mem
    obtain ⟨path, mem_path, selects⟩ := selection.exists_selects mem
    obtain ⟨content, found⟩ := selects.exists_find?
    exact ⟨content, found, answerable.readable path mem_path f content selects found⟩
  obtain ⟨reports, each, complete⟩ := exists_forall₂_reports leads readable options
  exact ⟨selected.flatten, reports, selection, each, complete⟩

theorem answers_mergeSort {reports : List FileReport} {selected : List Selected}
    (selection : Selection request disk selected)
    (complete : selected.Forall₂ (Reports options request disk) reports) :
    Answers options request disk (reports.mergeSort fun a b => a.path ≤ b.path) where
  ordered := by
    have ordered : (reports.mergeSort fun a b => a.path ≤ b.path).Pairwise
        fun a b => decide (a.path ≤ b.path) = true :=
      List.pairwise_mergeSort (fun a b c => by simpa using String.le_trans)
        (fun a b => by simpa using String.le_total _ _) reports
    exact ordered.imp of_decide_eq_true
  complete := by
    have perm := List.mergeSort_perm reports fun a b => a.path ≤ b.path
    have reordered : Relation.Comp (List.Forall₂ (Reports options request disk)) List.Perm selected
        (reports.mergeSort fun a b => a.path ≤ b.path) := ⟨reports, complete, perm.symm⟩
    rw [List.forall₂_comp_perm_eq_perm_comp_forall₂] at reordered
    obtain ⟨between, perm', related⟩ := reordered
    obtain ⟨groups, covers, perm_flatten⟩ := selection
    exact ⟨between, ⟨groups, covers, perm'.symm.trans perm_flatten⟩, related⟩

/-- **Whatever happens in a scan of a request that can be answered, it comes to an answer.** -/
theorem Outcome.answers (happens : Outcome options request disk outcome)
    (answerable : Answerable request disk) :
    ∃ reports, outcome = .ok reports ∧ Answers options request disk reports := by
  obtain ⟨globs, reads⟩ := exists_readGlobs answerable.patterns
  cases happens with
  | badPattern fails => cases reads.symm.trans fails
  | badPath reads mem again fails =>
    obtain ⟨files, -, looked, -⟩ :=
      exists_filesAt again.named reads (has_of_relisted again (answerable.paths _ mem))
    cases looked.symm.trans fails
  | badFile reads looked run mem =>
    obtain ⟨_, reports, -, each, -⟩ := answerable.exists_reports reads looked options
    obtain ⟨file, mem, fails⟩ := run.exists_of_mem mem
    have finished := List.mem_map_of_mem (f := work options request disk) mem
    rw [each, ← fails] at finished
    obtain ⟨_, -, ⟨⟩⟩ := List.mem_map.mp finished
  | done reads looked run =>
    obtain ⟨selected, reports, selection, each, complete⟩ :=
      answerable.exists_reports reads looked options
    have same := run.results_eq.trans each
    rw [List.map_inj_right fun _ _ eq => Except.ok.inj eq] at same
    subst same
    exact ⟨_, rfl, answers_mergeSort selection complete⟩

/-- **Scans do not depend on order.** -/
theorem scan_is_the_same_in_any_order (answerable : Answerable request disk)
    (apart : Apart request disk) (options : Block.Options) :
    ∃ reports, Answers options request disk reports ∧
      (Separate request disk → reports.Pairwise fun r r' => r.path < r'.path) ∧
      ∀ paths', request.paths.Perm paths' → ∀ disk', disk.Relisted disk' →
        ({ request with paths := paths' } : ScanRequest).run options disk' = .ok reports ∧
        ∀ outcome, Outcome options { request with paths := paths' } disk' outcome →
          outcome = .ok reports := by
  have here := Disk.Relisted.refl answerable.named
  obtain ⟨reports, -, answers⟩ :=
    (outcome_run answerable.named options request).answers answerable
  have every : ∀ paths', request.paths.Perm paths' → ∀ disk', disk.Relisted disk' →
      ∀ outcome, Outcome options { request with paths := paths' } disk' outcome →
        outcome = .ok reports := by
    intro paths' perm disk' again outcome happens
    obtain ⟨reports', rfl, answers'⟩ := happens.answers (answerable.of_perm again perm)
    rw [answers.unique apart (answers'.of_perm answerable.named again perm)]
  refine ⟨reports, answers, answers.strict apart, fun paths' perm disk' again => ?_⟩
  exact ⟨every paths' perm disk' again _ (outcome_run again.named options _),
    every paths' perm disk' again⟩

/-- A directory with a script and a file that is no text, and a tool beside it. -/
def project : Disk where
  tree := .directory
    [("src", .directory
      [("app.py", .file "def main():\n    run()\n".toUTF8), ("blob.bin", .file ⟨#[97, 0, 98]⟩)]),
     ("tool", .file "def tool():\n    pass\n".toUTF8)]
  here := []

/-- The same project with both directories listed the other way round. -/
def relistedProject : Disk where
  tree := .directory
    [("tool", .file "def tool():\n    pass\n".toUTF8),
     ("src", .directory
      [("blob.bin", .file ⟨#[97, 0, 98]⟩), ("app.py", .file "def main():\n    run()\n".toUTF8)])]
  here := []

/-- A request for that directory and the tool. -/
def projectRequest : ScanRequest where
  paths := ["src", "tool"]
  globs := ["*.py", "*.bin"]

theorem wellNamed_project : project.tree.WellNamed := by
  refine .directory (by decide) (by decide) ?_
  simp only [List.forall_mem_cons, List.not_mem_nil, false_imp_iff, implies_true, and_true]
  refine ⟨.directory (by decide) (by decide) ?_, .file _⟩
  simp only [List.forall_mem_cons, List.not_mem_nil, false_imp_iff, implies_true, and_true]
  exact ⟨.file _, .file _⟩

theorem relisted_project : project.Relisted relistedProject where
  here := rfl
  alike := by
    refine FileTree.alike_directory (by decide) (.swap _ _ _) (.cons ⟨rfl, .refl _⟩ ?_)
    refine .cons ⟨rfl, ?_⟩ .nil
    exact FileTree.alike_directory (by decide) (.swap _ _ _)
      (.cons ⟨rfl, .refl _⟩ (.cons ⟨rfl, .refl _⟩ .nil))
  named := by
    refine .directory (by decide) (by decide) ?_
    simp only [List.forall_mem_cons, List.not_mem_nil, false_imp_iff, implies_true, and_true]
    refine ⟨.file _, .directory (by decide) (by decide) ?_⟩
    simp only [List.forall_mem_cons, List.not_mem_nil, false_imp_iff, implies_true, and_true]
    exact ⟨.file _, .file _⟩

/-- What is looked up for a path of that request. -/
def projectFiles (path : String) : List (String × String) :=
  if path == "src" then [("src/app.py", "app.py"), ("src/blob.bin", "blob.bin")] else [(path, path)]

theorem exists_filesAt_project : ∃ globs, readGlobs projectRequest.globs = .ok globs ∧
    ∀ path ∈ projectRequest.paths,
      filesAt projectRequest globs project path = .ok (projectFiles path) := by
  have valid : ∀ pattern ∈ projectRequest.globs, (Glob.read? pattern).isSome := by decide
  obtain ⟨globs, reads⟩ := exists_readGlobs valid
  have looked : ∀ path ∈ projectRequest.paths,
      (filesAt projectRequest ((readGlobs projectRequest.globs).toOption.getD []) project
        path).toOption = some (projectFiles path) := by
    decide
  rw [reads] at looked
  refine ⟨globs, reads, fun path mem => ?_⟩
  have here := looked path mem
  cases eq : filesAt projectRequest globs project path with
  | error report =>
    simp only [Except.toOption, Option.getD, eq] at here
    cases here
  | ok files =>
    simp only [Except.toOption, Option.getD, eq] at here
    rw [Option.some.inj here]

theorem answerable_project : Answerable projectRequest project where
  named := wellNamed_project
  patterns := by decide
  paths := by decide
  readable path mem f content selects found := by
    obtain ⟨globs, reads, looked⟩ := exists_filesAt_project
    have there : ∀ path ∈ projectRequest.paths, project.has path = true := by decide
    obtain ⟨file, mem_file, leads, -⟩ :=
      (selects_iff_of_filesAt wellNamed_project reads (there path mem) (looked path mem)).mp selects
    have each : ∀ path ∈ projectRequest.paths, ∀ file ∈ projectFiles path,
        project.resolve file.1 = .ok ["src", "app.py"] ∨
          project.resolve file.1 = .ok ["src", "blob.bin"] ∨
          project.resolve file.1 = .ok ["tool"] := by
      decide
    rcases each path mem file mem_file with place | place | place <;>
      rw [← Except.ok.inj (place.symm.trans leads)] at found <;> cases found
    · exact .inr (.inr ⟨_, rfl⟩)
    · exact .inr (.inl (by decide +kernel))
    · exact .inr (.inr ⟨_, rfl⟩)

/-- The project is scanned in one way, however it is listed and in whatever order it is asked for. -/
theorem scan_of_relisted_project :
    Answerable projectRequest project ∧ Apart projectRequest project ∧
      project.Relisted relistedProject ∧
      ∃ reports, Answers {} projectRequest project reports ∧
        projectRequest.run {} project = .ok reports ∧
        ({ projectRequest with paths := ["tool", "src"] } : ScanRequest).run {} relistedProject =
          .ok reports := by
  obtain ⟨globs, reads, looked⟩ := exists_filesAt_project
  have apart : Apart projectRequest project :=
    apart_of_filesAt wellNamed_project reads (by decide) looked (by decide)
  obtain ⟨reports, answers, -, same⟩ := scan_is_the_same_in_any_order answerable_project apart {}
  exact ⟨answerable_project, apart, relisted_project, reports, answers,
    (same _ (.refl _) project (.refl wellNamed_project)).1,
    (same ["tool", "src"] (.swap _ _ _) relistedProject relisted_project).1⟩

end Scan
end CodeGloss
