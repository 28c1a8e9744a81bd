import CodeGloss.Proofs.Outline.Lookup
import CodeGloss.Session

/-!
# What holds of a session

A session is put together of parts that have to fit: the outline is that of the text, the selection
is part of the outline, and the file of the session is the one that its broker knows
(`Session.Sound`).  Everything that can be done to a session (`Session.Operation`) leaves it so, and
what fails leaves it as it was (`Session.operations_keep_session_sound`).

The selection holds a copy of its definition.  That the copy is part of the outline says more than
that its key is: the text of the copy has followed every edit.
-/

namespace CodeGloss

open Service (Answer FileRecord Inquiry)

namespace Session

/-! ## Operations -/

/-- What can be done to a session. -/
inductive Operation where
  /-- The text is replaced. -/
  | setText (text : String)
  /-- The language is replaced. -/
  | setLanguage (hint : Hint)
  /-- A file is loaded. -/
  | loadFile (fileId text : String)
  /-- A text is stored by a service and loaded then. -/
  | upload (service : Inquiry → Answer) (name text : String)
  /-- The definition that starts on a line is selected. -/
  | selectLine (line : Nat)
  /-- The first definition of a name is selected. -/
  | selectName (name : String)
  /-- The definition at a position is selected. -/
  | selectPosition (position : Nat)
  /-- Nothing is selected. -/
  | clearSelection

/-- What an operation reports when it was done. -/
inductive Reply where
  /-- Nothing. -/
  | done
  /-- Whether the selection had to be given up. -/
  | renewed (gone : Bool)
  /-- What the text was stored as. -/
  | stored (file : FileRecord)
  /-- What is selected. -/
  | selected (d : Option Definition)

/-- Why an operation could not be done. -/
inductive Trouble where
  /-- The service has not stored the text. -/
  | service (failure : Service.Failure)
  /-- There was nothing to select. -/
  | selection (failure : Selection.Failure)

/-- The session after a selection was tried. -/
def orElse (s : Session) : Except Selection.Failure (Session × Definition) →
    Session × Except Trouble Reply
  | .ok (s, d) => (s, .ok (.selected d))
  | .error failure => (s, .error (.selection failure))

/-- The session after an operation, and what the operation reports. -/
def perform (s : Session) : Operation → Session × Except Trouble Reply
  | .setText text => ((s.setText text).1, .ok (.renewed (s.setText text).2))
  | .setLanguage hint => ((s.setLanguage hint).1, .ok (.renewed (s.setLanguage hint).2))
  | .loadFile fileId text => (s.loadFile fileId text, .ok .done)
  | .upload service name text =>
    match s.upload service name text with
    | (s, .ok file) => (s, .ok (.stored file))
    | (s, .error failure) => (s, .error (.service failure))
  | .selectLine line => s.orElse (s.selectLine line)
  | .selectName name => s.orElse (s.selectName name)
  | .selectPosition position =>
    (s.selectPosition position, .ok (.selected (s.selectPosition position).selected?))
  | .clearSelection => (s.clearSelection, .ok .done)

/-- The session after some operations. -/
def performAll (ops : List Operation) (s : Session) : Session :=
  ops.foldl (fun s op => (s.perform op).1) s

/-! ## What an operation leaves -/

/-- Whether the parts of a session fit. -/
structure Sound (s : Session) : Prop where
  outline : s.outline = Outline.ofText s.options s.hint s.text
  /-- What is selected is in the outline, as it is there. -/
  selected : ∀ d, s.selected? = some d → d ∈ s.outline.definitions
  /-- The file of the session is the one that its broker knows. -/
  file : ∀ fileId, s.fileId = some fileId → s.broker.fileId = some fileId

/-- A session without a text fits, whatever its broker knows. -/
theorem sound_new (options : Block.Options) (hint : Hint) (broker : Broker) :
    ({ options, hint, broker } : Session).Sound where
  outline := rfl
  selected _ selected := by cases selected
  file _ loaded := by cases loaded

/-- Renewing a session makes its outline fit, and its selection with it. -/
theorem sound_renew {s : Session}
    (file : ∀ fileId, s.fileId = some fileId → s.broker.fileId = some fileId) :
    s.renew.1.Sound where
  outline := rfl
  selected d selected := by
    rcases s.selection.follow_cases (Outline.ofText s.options s.hint s.text) with
      ⟨nothing, eq⟩ | ⟨_, -, ⟨d', mem, -, eq⟩ | ⟨-, eq⟩⟩
    · simp only [selected?, renew, eq, nothing] at selected
      cases selected
    · simp only [selected?, renew, eq, Option.some.injEq] at selected
      rw [← selected]
      exact mem
    · simp only [selected?, renew, eq] at selected
      cases selected
  file := file

theorem sound_loadFile (s : Session) (fileId text : String) : (s.loadFile fileId text).Sound :=
  sound_renew fun _ loaded => loaded

section Sound

variable {s : Session} (h : s.Sound)
include h

/-- A definition of the outline may be selected, or nothing. -/
theorem Sound.select {selection : Selection}
    (mem : ∀ d, selection.selected? = some d → d ∈ s.outline.definitions) :
    ({ s with selection } : Session).Sound where
  outline := h.outline
  selected := mem
  file := h.file

/-- An inquiry changes nothing but the log. -/
theorem Sound.issue (inquiry : Inquiry) :
    ({ s with broker := s.broker.issue inquiry } : Session).Sound where
  outline := h.outline
  selected := h.selected
  file := h.file

/-- What a selection that was tried leaves. -/
theorem Sound.orElse {tried : Except Selection.Failure (Selection × Definition)}
    (mem : ∀ r, tried = .ok r → r.1.selected? = some r.2 ∧ r.2 ∈ s.outline.definitions) :
    (s.orElse (tried.map fun r => ({ s with selection := r.1 }, r.2))).1.Sound := by
  cases tried with
  | error failure => exact h
  | ok r =>
    obtain ⟨selects, within⟩ := mem r rfl
    refine h.select fun d selected => ?_
    rw [selects, Option.some.injEq] at selected
    rw [← selected]
    exact within

theorem Sound.perform (op : Operation) : (s.perform op).1.Sound := by
  cases op with
  | setText text => exact sound_renew h.file
  | setLanguage hint => exact sound_renew h.file
  | loadFile fileId text => exact s.sound_loadFile fileId text
  | upload service name text =>
    simp only [Session.perform, upload]
    cases (service (.upload name text)).toFile with
    | error failure => exact h.issue _
    | ok file => exact sound_loadFile _ file.id text
  | selectLine line =>
    refine h.orElse fun r tried => ?_
    unfold Selection.selectLine at tried
    split at tried
    next d found =>
      cases tried
      exact ⟨rfl, Outline.mem_of_startingOn? found⟩
    next => cases tried
  | selectName name =>
    refine h.orElse fun r tried => ?_
    unfold Selection.selectName at tried
    split at tried
    next d found =>
      cases tried
      exact ⟨rfl, Outline.mem_of_named? found⟩
    next => cases tried
  | selectPosition position =>
    exact h.select fun d selected => Outline.mem_of_get? selected
  | clearSelection => exact h.select fun d selected => by cases selected

theorem Sound.performAll (ops : List Operation) : (s.performAll ops).Sound := by
  induction ops generalizing s with
  | nil => exact h
  | cons op ops ih => exact ih (h.perform op)

end Sound

/-- **What fails changes nothing**, but for the log of what was asked of the service. -/
theorem eq_of_perform_error {s : Session} {op : Operation} {trouble : Trouble}
    (failed : (s.perform op).2 = .error trouble) :
    (s.perform op).1 =
      { s with broker := { s.broker with calls := (s.perform op).1.broker.calls } } := by
  have tried : ∀ r, (s.orElse r).2 = .error trouble → (s.orElse r).1 = s := by
    intro r refused
    cases r with
    | ok r => cases refused
    | error failure => rfl
  cases op with
  | selectLine line => rw [perform, tried _ failed]
  | selectName name => rw [perform, tried _ failed]
  | upload service name text =>
    simp only [perform, upload] at failed ⊢
    cases stored : (service (.upload name text)).toFile with
    | error failure => rfl
    | ok file =>
      rw [stored] at failed
      cases failed
  | _ => cases failed

/-- **The parts of a session fit.**  After any operations the outline is that of the text, what is
selected is in the outline, as it is there, and the file of the session is the one that its broker
knows.  Whatever is done next: to replace the text or the language puts the new one in its place, and
gives the selection up if there is one and its key is not in the new outline, and in no other case;
to load a file puts its text and its id there; and an operation that fails leaves the session as it
was, but for the log of what was asked of the service. -/
theorem operations_keep_session_sound (options : Block.Options) (hint : Hint) (broker : Broker)
    (ops : List Operation) :
    let s := performAll ops { options, hint, broker }
    s.outline = Outline.ofText s.options s.hint s.text ∧
      (∀ d, s.selected? = some d → d ∈ s.outline.definitions) ∧
      (∀ fileId, s.fileId = some fileId → s.broker.fileId = some fileId) ∧
      (∀ text, ∃ gone, (s.perform (.setText text)).2 = .ok (.renewed gone) ∧
        (s.perform (.setText text)).1.text = text ∧
        (gone = true ↔ ∃ d, s.selected? = some d ∧
          ∀ d' ∈ (s.perform (.setText text)).1.outline.definitions, d'.key ≠ d.key)) ∧
      (∀ hint, ∃ gone, (s.perform (.setLanguage hint)).2 = .ok (.renewed gone) ∧
        (s.perform (.setLanguage hint)).1.hint = hint ∧
        (gone = true ↔ ∃ d, s.selected? = some d ∧
          ∀ d' ∈ (s.perform (.setLanguage hint)).1.outline.definitions, d'.key ≠ d.key)) ∧
      (∀ fileId text, (s.perform (.loadFile fileId text)).1.text = text ∧
        (s.perform (.loadFile fileId text)).1.fileId = some fileId) ∧
      ∀ op trouble, (s.perform op).2 = .error trouble →
        (s.perform op).1 =
          { s with broker := { s.broker with calls := (s.perform op).1.broker.calls } } := by
  intro s
  have h : s.Sound := (sound_new options hint broker).performAll ops
  refine ⟨h.outline, h.selected, h.file, fun text => ⟨_, rfl, rfl, ?_⟩,
    fun hint => ⟨_, rfl, rfl, ?_⟩, fun fileId text => ⟨rfl, rfl⟩, ?_⟩
  · exact s.selection.follow_snd_iff _
  · exact s.selection.follow_snd_iff _
  · exact fun op trouble failed => eq_of_perform_error failed

end Session
end CodeGloss
