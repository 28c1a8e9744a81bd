import CodeGloss.Proofs.Command.Explained
import CodeGloss.Proofs.Detection.Found
import CodeGloss.Proofs.Files.Disk
import CodeGloss.Proofs.Json.Grammar
import CodeGloss.Proofs.Scan.Workers
import Mathlib.Data.List.Forall2

/-!
# What is printed of a scan

A scan prints one record for each file.  Where the records are asked for as JSON, nothing is lost on the
way out: the text is JSON to the letter of the grammar, and the definitions are read from it as they
were, whatever characters the source has (`Command.printed_reports_read_back`).

* `Definition.ofJson?_toJson`: one definition.  Its line numbers have to be small enough, and those of
  a definition that was detected are at most the number of lines (`Detection.bounds_of_mem`).
* `FileReport.isRecordedAs_toJson`: one report.  Its record says that the file was skipped if and only
  if it was.
* `ScanRequest.detected_of_run`: the reports of a scan are such reports, since no file that is looked
  into is large enough to have too many lines.  So all that a scan prints can be read back
  (`Command.exists_printed_of_scanOnce`).
-/

namespace CodeGloss

/-! ## Definitions -/

namespace Definition

theorem plain_toJson (d : Definition) : d.toJson.Plain := by
  refine .object fun m mem => ?_
  simp only [List.mem_cons, List.not_mem_nil, or_false] at mem
  rcases mem with rfl | rfl | rfl | rfl | rfl
  · exact .string _
  · exact .string _
  · exact .natural _
  · exact .natural _
  · exact .string _

/-- A definition is read from its record if its line numbers are small enough. -/
theorem ofJson?_toJson {d : Definition} (first : d.firstLine < lineLimit)
    (last : d.lastLine < lineLimit) : ofJson? d.toJson = some d := by
  have fields : d.toJson.fields? ["kind", "name", "lineStart", "lineEnd", "fullText"] 5 =
      some [some (.string (some d.kind.word)), some (.string (some d.name)),
        some (.natural d.firstLine), some (.natural d.lastLine), some (.string (some d.text))] := by
    rfl
  simp only [ofJson?, fields, kindOf?, Kind.ofWord?_word, Json.Value.text?,
    Json.Value.naturalBelow?, if_pos first, if_pos last, Option.bind_eq_bind, Option.bind_some]

end Definition

theorem Detection.bounds_of_mem {options : Block.Options} {hint : Hint} {text : String}
    {d : Definition} (mem : d ∈ (Outline.ofText options hint text).definitions) :
    d.firstLine ≤ d.lastLine ∧ d.lastLine ≤ (Line.ofText text.toList).length := by
  rw [ofText_eq] at mem
  obtain ⟨i, -, found⟩ := List.mem_filterMap.mp mem
  exact (definitionOn?_bounds found).2

/-! ## Reports -/

namespace FileReport

variable {r : FileReport}

/-- Whether the definitions of a report are those of some text, which has no more lines than can be
counted. -/
def Detected (r : FileReport) : Prop :=
  ∃ options hint text, r.definitions = (Outline.ofText options hint text).definitions ∧
    (Line.ofText text.toList).length < Definition.lineLimit

/-- Whether a value is a record of a report: an object with its path, its language, the reason why the
file was skipped if it was, and a list in which its definitions can be read, one by one. -/
def IsRecordedAs (r : FileReport) (v : Json.Value) : Prop :=
  ∃ members definitions, v = .object members ∧
    Json.Value.member? "path" members = some (some (.string (some r.path))) ∧
    Json.Value.member? "language" members = some (some (.string (some r.language.name))) ∧
    Json.Value.member? "skipped" members =
      some (r.skipped.map fun reason => .string (some reason.name)) ∧
    Json.Value.member? "spans" members = some (some (.array definitions)) ∧
    definitions.mapM Definition.ofJson? = some r.definitions

theorem plain_toJson (r : FileReport) : r.toJson.Plain := by
  have definitions : ∀ v ∈ r.definitions.map Definition.toJson, v.Plain := by
    intro v mem
    obtain ⟨d, -, rfl⟩ := List.mem_map.mp mem
    exact d.plain_toJson
  refine .object fun m mem => ?_
  simp only [List.mem_append, List.mem_cons, List.not_mem_nil, or_false] at mem
  rcases mem with ((rfl | rfl) | mem) | rfl
  · exact .string _
  · exact .string _
  · cases skipped : r.skipped with
    | none =>
      rw [skipped] at mem
      cases mem
    | some reason =>
      rw [skipped] at mem
      rw [List.mem_singleton.mp mem]
      exact .string _
  · exact .array definitions

/-- Definitions are read back one by one. -/
theorem mapM_ofJson?_toJson {definitions : List Definition}
    (each : ∀ d ∈ definitions, Definition.ofJson? d.toJson = some d) :
    (definitions.map Definition.toJson).mapM Definition.ofJson? = some definitions := by
  induction definitions with
  | nil => rfl
  | cons d ds ih =>
    obtain ⟨first, others⟩ := List.forall_mem_cons.mp each
    rw [List.map_cons, List.mapM_cons, first, ih others]
    rfl

theorem isRecordedAs_toJson (detected : r.Detected) : r.IsRecordedAs r.toJson := by
  obtain ⟨options, hint, text, definitions_eq, few⟩ := detected
  have reads : (r.definitions.map Definition.toJson).mapM Definition.ofJson? =
      some r.definitions := by
    refine mapM_ofJson?_toJson fun d mem => ?_
    obtain ⟨le, within⟩ := Detection.bounds_of_mem (definitions_eq ▸ mem)
    have last := Nat.lt_of_le_of_lt within few
    exact Definition.ofJson?_toJson (Nat.lt_of_le_of_lt le last) last
  refine ⟨_, r.definitions.map Definition.toJson, rfl, ?_, ?_, ?_, ?_, reads⟩ <;>
    cases r.skipped <;> rfl

end FileReport

/-! ## Scans -/

section Scans

variable {α β ε : Type} {options : Block.Options} {request : ScanRequest} {disk : Disk}

/-- What two steps come to comes from what the first one comes to. -/
theorem exists_of_bind_eq_ok {x : Except ε α} {f : α → Except ε β} {b : β}
    (done : (x >>= f) = .ok b) : ∃ a, x = .ok a ∧ f a = .ok b := by
  cases x with
  | error e => cases done
  | ok a => exact ⟨a, rfl, done⟩

theorem eq_ok_of_during {said : String} {x : Except Fault α} {a : α}
    (done : Fault.during said x = .ok a) : x = .ok a := by
  cases x with
  | error fault => cases done
  | ok b =>
    cases done
    rfl

/-- What comes out of a list, item by item, comes out of some item. -/
theorem exists_of_mem_mapM {f : α → Except ε β} {items : List α} {results : List β}
    (mapped : items.mapM f = .ok results) {b : β} (mem : b ∈ results) :
    ∃ a ∈ items, f a = .ok b := by
  have found : .ok b ∈ (results.map .ok : List (Except ε β)) := List.mem_map_of_mem mem
  rw [← Scan.mapM_eq_ok_iff.mp mapped] at found
  exact List.mem_map.mp found

/-- A text has at most one line for each of its bytes, and one more. -/
theorem length_ofText_le_size (text : String) :
    (Line.ofText text.toList).length ≤ text.toUTF8.size + 1 := by
  have bytes : ∀ s : List Char, s.length ≤ String.utf8Len s := by
    intro s
    induction s with
    | nil => exact Nat.zero_le _
    | cons c s ih =>
      have pos := Char.utf8Size_pos c
      rw [List.length_cons, String.utf8Len_cons]
      omega
  calc (Line.ofText text.toList).length
      ≤ text.toList.length + 1 := Line.length_ofText_le text.toList
    _ ≤ String.utf8Len text.toList + 1 := Nat.succ_le_succ (bytes text.toList)
    _ = text.toUTF8.size + 1 := congrArg (· + 1) (String.utf8Len_toList text)

/-- As large files are skipped, there are no more lines in a file than can be counted. -/
theorem detected_of_reportOn {path shown : String} {r : FileReport}
    (small : request.maxFileSize + 1 < Definition.lineLimit)
    (reported : Scan.reportOn options request disk path shown = .ok r) : r.Detected := by
  have skipped : ([] : List Definition) = (Outline.ofText options none "").definitions := rfl
  have no_lines : (Line.ofText "".toList).length < Definition.lineLimit := by decide
  obtain ⟨bytes, reads, reported⟩ := exists_of_bind_eq_ok reported
  split at reported
  next =>
    cases reported
    exact ⟨options, none, "", skipped, no_lines⟩
  next fits =>
    split at reported
    next =>
      cases reported
      exact ⟨options, none, "", skipped, no_lines⟩
    next =>
      obtain ⟨text, reads', reported⟩ := exists_of_bind_eq_ok reported
      cases reported
      have bytes_eq := Disk.readBytes_of_readText (eq_ok_of_during reads')
      rw [eq_ok_of_during reads] at bytes_eq
      cases bytes_eq
      have lines := length_ofText_le_size text
      exact ⟨options, _, text, rfl, by omega⟩

/-- All reports of a scan are of definitions that were detected. -/
theorem ScanRequest.detected_of_run {reports : List FileReport}
    (small : request.maxFileSize + 1 < Definition.lineLimit)
    (ran : request.run options disk = .ok reports) : ∀ r ∈ reports, r.Detected := by
  intro r mem
  obtain ⟨globs, -, ran⟩ := exists_of_bind_eq_ok ran
  obtain ⟨files, -, ran⟩ := exists_of_bind_eq_ok ran
  obtain ⟨found, mapped, ran⟩ := exists_of_bind_eq_ok ran
  cases ran
  obtain ⟨f, -, reported⟩ := exists_of_mem_mapM mapped (List.mem_mergeSort.mp mem)
  exact detected_of_reportOn small reported

end Scans

namespace Command

theorem plain_reports (reports : List FileReport) :
    (Json.Value.array (reports.map FileReport.toJson)).Plain := by
  refine .array fun v mem => ?_
  obtain ⟨r, -, rfl⟩ := List.mem_map.mp mem
  exact r.plain_toJson

/-- The line break behind the reports is white space. -/
theorem isText_writeJson (reports : List FileReport) :
    Json.IsText (FileReport.writeJson reports ++ "\n") := by
  refine Json.isText_write_append (plain_reports reports) fun c mem => ?_
  rw [List.mem_singleton.mp mem]
  decide

theorem read?_writeJson (reports : List FileReport) :
    Json.read? (FileReport.writeJson reports ++ "\n") =
      some (.array (reports.map FileReport.toJson)) := by
  refine Json.read?_write_append (plain_reports reports) ?_ rfl
  rintro c ⟨⟩
  exact .inr rfl

theorem forall₂_isRecordedAs {reports : List FileReport} (detected : ∀ r ∈ reports, r.Detected) :
    List.Forall₂ FileReport.IsRecordedAs reports (reports.map FileReport.toJson) := by
  rw [List.forall₂_map_right_iff, List.forall₂_same]
  exact fun r mem => FileReport.isRecordedAs_toJson (detected r mem)

/-- **Printed reports can be read back.**  The text is JSON, and what is read from it is a list of
records, one for each report and in the same order, in which the definitions of the reports are found
again as they were.  There is a reason for being skipped in the records of the files that were skipped,
and in no others. -/
theorem printed_reports_read_back {reports : List FileReport}
    (detected : ∀ r ∈ reports, r.Detected) :
    ∃ text values,
      (∀ w, (printReports reports true).ending w =
        (.ok (), { w with printed := w.printed ++ text })) ∧
      Json.IsText text ∧ Json.read? text = some (.array values) ∧
      List.Forall₂ FileReport.IsRecordedAs reports values :=
  ⟨_, _, fun _ => rfl, isText_writeJson reports, read?_writeJson reports,
    forall₂_isRecordedAs detected⟩

/-- A definition whose text has a quote, a backslash, control characters and a line separator, and a
file that was skipped. -/
theorem quoted_text_and_skipped_file_read_back :
    let source := "def f():\n  \"\\\x00\x1f\u2028\""
    let reports : List FileReport :=
      [⟨"a.py", some .python, none, [⟨.function, "f", 1, 2, source⟩]⟩,
        ⟨"b.bin", none, some .binaryFile, []⟩]
    (∀ r ∈ reports, r.Detected) ∧
      ∃ text values,
        (∀ w, (printReports reports true).ending w =
          (.ok (), { w with printed := w.printed ++ text })) ∧
        Json.IsText text ∧ Json.read? text = some (.array values) ∧
        List.Forall₂ FileReport.IsRecordedAs reports values := by
  intro source reports
  have found : [⟨.function, "f", 1, 2, source⟩] =
      (Outline.ofText {} (some .python) source).definitions := by decide +kernel
  have lines : (Line.ofText source.toList).length < Definition.lineLimit := by decide
  have none_ : [] = (Outline.ofText {} none "").definitions := by decide
  have no_lines : (Line.ofText "".toList).length < Definition.lineLimit := by decide
  have detected : ∀ r ∈ reports, r.Detected := by
    refine List.forall_mem_cons.mpr ⟨⟨_, _, _, found, lines⟩, ?_⟩
    exact List.forall_mem_singleton.mpr ⟨_, _, _, none_, no_lines⟩
  exact ⟨detected, printed_reports_read_back detected⟩

/-- What is scanned for a request to list definitions. -/
def scanned (settings : Settings) (r : DetectRequest) : ScanRequest where
  paths := r.paths
  globs := r.globs
  language := r.language.getD settings.detector.hint

/-- A scan prints its reports, or else it fails and nothing has happened. -/
theorem ending_scanOnce (settings : Settings) (r : DetectRequest) (w : World) :
    (scanOnce settings r).ending w =
      match (scanned settings r).run settings.detector.options w.disk with
      | .error report => (.error report, w)
      | .ok reports => (printReports reports r.json).ending w := by
  rw [scanOnce, Run.ending_bind, Run.ending_withDisk, scanned]
  cases ScanRequest.run _ settings.detector.options w.disk <;> rfl

/-- A scan that does not fail prints the reports that were asked for, so that they can be read back. -/
theorem exists_printed_of_scanOnce {settings : Settings} {r : DetectRequest} {w : World}
    (json : r.json = true)
    (done : ((scanOnce settings r).ending w).1 = .ok ()) :
    ∃ reports text values,
      (scanned settings r).run settings.detector.options w.disk = .ok reports ∧
      ((scanOnce settings r).ending w).2 = { w with printed := w.printed ++ text } ∧
      Json.IsText text ∧ Json.read? text = some (.array values) ∧
      List.Forall₂ FileReport.IsRecordedAs reports values := by
  rw [ending_scanOnce] at done
  simp only [ending_scanOnce]
  cases ran : (scanned settings r).run settings.detector.options w.disk with
  | error report =>
    rw [ran] at done
    cases done
  | ok reports =>
    have small : (scanned settings r).maxFileSize + 1 < Definition.lineLimit := by
      show 1024 * 1024 + 1 < Definition.lineLimit
      decide
    rw [json]
    exact ⟨reports, _, _, rfl, rfl, isText_writeJson reports, read?_writeJson reports,
      forall₂_isRecordedAs (ScanRequest.detected_of_run small ran)⟩

end Command
end CodeGloss
