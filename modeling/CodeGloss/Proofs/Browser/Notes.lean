import CodeGloss.Proofs.Browser.Diary

/-!
# What the panel says

The two things that matter about the notes in the panel, at every moment of every run of the
browser.

An explanation that is shown is one of the definition that is selected, as a definition of the file
that is loaded.  The service may have told it long ago, for a task that was started before the
source was read again, before something else was selected or before the source was stored once more;
what the panel shows is right all the same.

And the panel does not promise in vain.  When all questions have been followed up to their end and
all outcomes have been looked at, neither note says that something is on its way.
-/

namespace CodeGloss
namespace Browser

open Service (Answer Inquiry)

/-- Whether the service has told a text for a key of a file in a run of the browser.  It has if a
task has taken an answer to an inquiry that was made for an annotation, and either the inquiry was
for all annotations of the file and there is one of that name, or it was for the text of a
definition of the file that was demanded and has that key. -/
def Told (b : Browser) (steps : List Step) (fileId key text : String) : Prop :=
  ∃ n supply call a slip, Step.work n supply ∈ steps ∧ supply call slip.inquiry = some a ∧
    (call, a) ∈ (Diary.run b steps).books.receipts ∧
    (Diary.run b steps).books.slips[call]? = some slip ∧
    (b.takeAll steps).session.broker.calls[call]? = some slip.inquiry ∧ slip.key.isSome ∧
    ((slip.inquiry = .list fileId ∧ ∃ glosses, a.toGlosses = .ok glosses ∧ ⟨key, text⟩ ∈ glosses) ∨
      (slip.key = some key ∧ a.toText = .ok text ∧
        ∃ d, .gloss d fileId ∈ (Diary.run b steps).demands ∧ d.glossKey = key ∧
          slip.inquiry = .generate fileId d.text))

theorem told_of_gave {disk : Disk} {request : Request} {b : Browser}
    (started : Browser.start disk request = .ok b) (steps : List Step) {fileId key text : String}
    (gave : (Diary.run b steps).books.Gave fileId key text) : Told b steps fileId key text := by
  have h := Diary.sound_run started steps
  obtain ⟨⟨call, a⟩, mem, slip, here, logged, keyed, tells⟩ :=
    h.origin.of_gave h.core.books.sound gave
  obtain ⟨n, supply, slip', step_mem, here', given⟩ := h.receipts _ mem
  rw [here, Option.some.injEq] at here'
  subst here'
  refine ⟨n, supply, call, a, slip, step_mem, given, mem, here, ?_, keyed, tells⟩
  rw [← Diary.browser_run]
  exact h.core.broker ▸ logged

/-- **The panel shows no foreign text.**  Whatever happens to a browser, if there is an explanation
in its panel then a definition is selected and a file is loaded, and the service has told that text
for that definition of that file. -/
theorem shown_gloss_was_told {disk : Disk} {request : Request} {b : Browser}
    (started : Browser.start disk request = .ok b) (steps : List Step) {text : String}
    (shown : (b.takeAll steps).panel.gloss = .ready text) :
    ∃ d fileId, (b.takeAll steps).session.selected? = some d ∧
      (b.takeAll steps).session.fileId = some fileId ∧ Told b steps fileId d.glossKey text := by
  have h := (Diary.sound_run started steps).core
  rw [← Diary.browser_run] at shown ⊢
  obtain ⟨d, fileId, selected, loaded, gave⟩ := h.ready text shown
  exact ⟨d, fileId, selected, loaded, told_of_gave started steps gave⟩

/-- Here the source is read again after the service has answered and before that is looked at. -/
theorem shown_gloss_was_told_after_reload :
    let disk (text : String) : Disk :=
      { tree := .directory [("f.rs", .file text.toUTF8)], here := [] }
    let request : Request :=
      { path := "f.rs", fileId := some "7", hint := some .rust, watches := false }
    let supply : Supply := fun _ _ => some (.glosses [⟨"f", "It does nothing."⟩])
    let steps : List Step :=
      [.event (.key .down false), .event (.key .enter false), .work 0 supply,
        .edit (disk "fn f() \x7b \x7d"), .event (.key (.char 'r') false), .receive 0]
    ∃ b, Browser.start (disk "fn f() \x7b\x7d") request = .ok b ∧
      (b.takeAll steps).panel.gloss = .ready "It does nothing." ∧
      ∃ d fileId, (b.takeAll steps).session.selected? = some d ∧
        (b.takeAll steps).session.fileId = some fileId ∧
        Told b steps fileId d.glossKey "It does nothing." := by
  intro disk request supply steps
  have run : (Browser.start (disk "fn f() \x7b\x7d") request).toOption.map
      (fun b => (b.takeAll steps).panel.gloss) = some (.ready "It does nothing.") := by
    decide +kernel
  cases started : Browser.start (disk "fn f() \x7b\x7d") request with
  | error report =>
    rw [started] at run
    cases run
  | ok b =>
    rw [started] at run
    have shown := Option.some.inj run
    exact ⟨b, rfl, shown, shown_gloss_was_told started steps shown⟩

/-- **The panel is not left loading.**  Whatever happens to a browser, when no question is followed
up any more and no outcome of one is left to be looked at, then neither note in the panel says that
something is on its way. -/
theorem panel_not_left_loading {disk : Disk} {request : Request} {b : Browser}
    (started : Browser.start disk request = .ok b) (steps : List Step)
    (followed : ∀ task ∈ (b.takeAll steps).tasks, ∃ name text call, task = .upload name text call)
    (received : ∀ delivery ∈ (b.takeAll steps).deliveries, ∃ result, delivery = .upload result) :
    (b.takeAll steps).panel.gloss ≠ .loading ∧ (b.takeAll steps).panel.detail ≠ .loading := by
  have h := (Diary.sound_run started steps).core
  rw [← Diary.browser_run] at followed received ⊢
  have settled : ∀ place, (Diary.run b steps).browser.panel.note place ≠ .loading := by
    intro place loading
    obtain ⟨request, -, ⟨q, ticket, mem, -⟩ | ⟨outcome, mem, -⟩⟩ := h.loading place loading
    · obtain ⟨name, text, call, eq⟩ := followed _ mem
      cases q <;> cases eq
    · obtain ⟨result, eq⟩ := received _ mem
      cases place <;> cases eq
  exact ⟨settled .gloss, settled .detail⟩

/-- Here the source is stored again, as the same file, while a question waits.  What comes of the
question is that the file was replaced, and it is passed over although it is for what is selected
and loaded.  By then the question was asked again, so something is still on its way. -/
theorem panel_not_left_loading_after_upload :
    let disk : Disk :=
      { tree := .directory [("f.rs", .file "fn f() \x7b\x7d".toUTF8)], here := [] }
    let request : Request :=
      { path := "f.rs", fileId := some "7", hint := some .rust, watches := false }
    let ask : List Step := [.event (.key .down false), .event (.key .enter false)]
    let stored : Supply := fun _ _ => some (.stored ⟨"7", "f.rs", none, none⟩)
    let told : Supply := fun _ _ => some (.glosses [⟨"f", "It does nothing."⟩])
    let store : List Step := [.event (.key (.char 'u') false), .work 1 stored, .receive 0]
    let passed : List Step :=
      ask ++ [.work 0 fun _ _ => none] ++ store ++ ask ++ [.work 0 told, .receive 0]
    let steps : List Step := passed ++ [.work 0 told, .receive 0]
    ∃ b, Browser.start disk request = .ok b ∧ (b.takeAll passed).panel.gloss = .loading ∧
      (b.takeAll steps).tasks = [] ∧ (b.takeAll steps).deliveries = [] ∧
      (b.takeAll steps).panel.gloss ≠ .loading ∧ (b.takeAll steps).panel.detail ≠ .loading := by
  intro disk request ask stored told store passed steps
  have run : (Browser.start disk request).toOption.map (fun b =>
      ((b.takeAll passed).panel.gloss, (b.takeAll steps).tasks.length,
        (b.takeAll steps).deliveries.length)) = some (.loading, 0, 0) := by
    decide +kernel
  cases started : Browser.start disk request with
  | error report =>
    rw [started] at run
    cases run
  | ok b =>
    rw [started] at run
    obtain ⟨loading, counts⟩ := Prod.mk.inj (Option.some.inj run)
    obtain ⟨tasks, deliveries⟩ := Prod.mk.inj counts
    have tasks := List.length_eq_zero_iff.mp tasks
    have deliveries := List.length_eq_zero_iff.mp deliveries
    refine ⟨b, rfl, loading, tasks, deliveries, panel_not_left_loading started steps ?_ ?_⟩
    · simp [tasks]
    · simp [deliveries]

end Browser
end CodeGloss
