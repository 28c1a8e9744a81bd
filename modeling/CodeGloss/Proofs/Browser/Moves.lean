import CodeGloss.Proofs.Browser.Run
import Mathlib.Logic.Relation

/-!
# What a step can do to the panel

Most of a browser is there to be looked at: the view, the window, the divider, the message at the
foot.  What the notes in the panel depend on is its core (`Browser.core`): the session, the panel
itself, the tasks and what has come of them.

Everything that a step without answers can do to the core is a sequence of moves (`Core.Move`,
`Browser.moves_take`), and a step with answers takes one task as far as they allow
(`Browser.core_workOn`).  Nothing later looks into a step.
-/

namespace CodeGloss

/-! ## Questions and notes -/

/-- Where the panel has a note. -/
inductive Place where
  /-- Where it says something about the definition. -/
  | gloss
  /-- Where it says more. -/
  | detail
deriving DecidableEq, Repr

/-- What the service is asked about the selected definition. -/
inductive Question where
  /-- What there is to say about it. -/
  | gloss (request : Session.Request)
  /-- What there is to say besides what is said already. -/
  | detail (request : Session.Request) (current : String)

namespace Question

/-- The definition that a question is about, and its file. -/
def request : Question → Session.Request
  | gloss request => request
  | detail request _ => request

/-- Where the answer to a question is noted. -/
def place : Question → Place
  | gloss _ => .gloss
  | detail _ _ => .detail

/-- The task of finding the answer to a question. -/
def task (ticket : Option Ticket) : Question → Task
  | gloss request => .gloss request ticket
  | detail request current => .detail request current ticket

theorem task_inj {q q' : Question} {ticket ticket' : Option Ticket}
    (same : q.task ticket = q'.task ticket') : q = q' ∧ ticket = ticket' := by
  cases q <;> cases q' <;> cases same <;> exact ⟨rfl, rfl⟩

end Question

/-- What comes of a question that is noted at a place. -/
def Place.delivery (request : Session.Request) (outcome : Resolution.Outcome) : Place → Delivery
  | gloss => .gloss request outcome
  | detail => .detail request outcome

theorem Place.delivery_inj {place place' : Place} {request request' : Session.Request}
    {outcome outcome' : Resolution.Outcome}
    (same : place.delivery request outcome = place'.delivery request' outcome') :
    place = place' ∧ request = request' ∧ outcome = outcome' := by
  cases place <;> cases place' <;> cases same <;> exact ⟨rfl, rfl, rfl⟩

namespace Panel

/-- The note at a place. -/
def note (p : Panel) : Place → Note
  | .gloss => p.gloss
  | .detail => p.detail

/-- The panel with another note at a place. -/
def noted (place : Place) (note : Note) (p : Panel) : Panel :=
  match place with
  | .gloss => { p with gloss := note }
  | .detail => { p with detail := note }

/-- The panel when the selection of a session has changed. -/
def following (s : Session) : Panel :=
  match s.selected? with
  | none => {}
  | some d =>
    match s.broker.get? d with
    | some text => { Panel.showing d with gloss := .ready text }
    | none => Panel.showing d

theorem note_noted (p : Panel) (place other : Place) (note : Note) :
    (p.noted place note).note other = if other = place then note else p.note other := by
  cases place <;> cases other <;> rfl

/-- No answer is waited for when the selection has just changed. -/
theorem note_following_ne_loading (s : Session) (place : Place) :
    (following s).note place ≠ .loading := by
  unfold following
  cases place <;> grind [note, showing]

/-- What is noted then is known. -/
theorem gloss_following {s : Session} {text : String} (ready : (following s).gloss = .ready text) :
    ∃ d, s.selected? = some d ∧ s.broker.get? d = some text := by
  unfold following at ready
  split at ready
  next => cases ready
  next d selected =>
    split at ready
    next known =>
      cases ready
      exact ⟨d, selected, known⟩
    next => cases ready

end Panel

/-! ## Moves -/

/-- What the notes in the panel of a browser depend on. -/
structure Core where
  /-- The text and its annotations. -/
  session : Session
  /-- The panel. -/
  panel : Panel
  /-- The work in the background. -/
  tasks : List Task
  /-- What has come of tasks and was not looked at yet. -/
  deliveries : List Delivery

namespace Core

/-- The note that an outcome gives, if it is one. -/
def noteOf? : Resolution.Outcome → Option Note
  | .ok resolution => resolution.text?.map .ready
  | .error failure => some (.failed failure.message)

theorem noteOf?_eq_none_iff {outcome : Resolution.Outcome} :
    noteOf? outcome = none ↔ outcome = .ok .stale := by
  cases outcome with
  | error failure => simp [noteOf?]
  | ok resolution => cases resolution <;> simp [noteOf?, Resolution.text?]

/-- The things that can be done to a core, one at a time. -/
inductive Move : Core → Core → Prop
  /-- Something else is selected. -/
  | select (c : Core) (selection : Selection) :
      Move c
        { c with
          session := { c.session with selection }
          panel := .following { c.session with selection } }
  /-- What is known about the selected definition is noted. -/
  | remember {c : Core} {request : Session.Request} {text : String}
      (asks : c.session.request = .ok request)
      (known : c.session.broker.get? request.definition = some text) :
      Move c { c with panel := c.panel.noted .gloss (.ready text) }
  /-- A question about the selected definition is asked. -/
  | ask {c : Core} (q : Question) (asks : c.session.request = .ok q.request) :
      Move c
        { c with
          panel := c.panel.noted q.place .loading
          tasks := c.tasks ++ [q.task none] }
  /-- The source is to be stored. -/
  | upload (c : Core) (name text : String) :
      Move c { c with tasks := c.tasks ++ [.upload name text none] }
  /-- The text is replaced. -/
  | reload (c : Core) (text : String) :
      Move c
        { c with
          session := (c.session.setText text).1
          panel := if (c.session.setText text).2 then {} else c.panel }
  /-- A delivery is passed over.  If it is one for the selected definition and the loaded file, it
  says that the file was replaced. -/
  | passOver {c : Core} {n : Nat} {delivery : Delivery} (here : c.deliveries[n]? = some delivery)
      (stale : ∀ (place : Place) request outcome, delivery = place.delivery request outcome →
        c.session.isCurrent request = true → outcome = .ok .stale) :
      Move c { c with deliveries := c.deliveries.eraseIdx n }
  /-- An outcome is noted that is one for the selected definition and the loaded file. -/
  | note {c : Core} {n : Nat} {place : Place} {request : Session.Request}
      {outcome : Resolution.Outcome} {note : Note}
      (here : c.deliveries[n]? = some (place.delivery request outcome))
      (current : c.session.isCurrent request = true) (gives : noteOf? outcome = some note) :
      Move c
        { c with
          panel := c.panel.noted place note
          deliveries := c.deliveries.eraseIdx n }
  /-- The file is loaded that the source was stored as. -/
  | load {c : Core} {n : Nat} {file : Service.FileRecord}
      (here : c.deliveries[n]? = some (.upload (.ok file))) :
      Move c
        { c with
          session := c.session.loadFile file.id c.session.text
          panel := {}
          deliveries := c.deliveries.eraseIdx n }

/-- Some moves, one after the other. -/
abbrev Moves : Core → Core → Prop :=
  Relation.ReflTransGen Move

/-- No move is a step of a fetch. -/
theorem fetches_moves {c c' : Core} (moves : c.Moves c') :
    c'.session.broker.fetches = c.session.broker.fetches := by
  induction moves with
  | refl => rfl
  | tail _ move ih => cases move <;> exact ih

/-- The core after the task at a position was polled. -/
def settle (n : Nat) (polled : Broker × (Task ⊕ Delivery)) (c : Core) : Core :=
  let c := { c with session := { c.session with broker := polled.1 } }
  match polled.2 with
  | .inl task => { c with tasks := c.tasks.set n task }
  | .inr delivery =>
    { c with tasks := c.tasks.eraseIdx n, deliveries := c.deliveries ++ [delivery] }

end Core

/-! ## What is only looked at -/

namespace Browser

open CodeGloss.Core (Move Moves noteOf?)

/-- What the notes in the panel depend on. -/
def core (b : Browser) : Core :=
  ⟨b.session, b.panel, b.tasks, b.deliveries⟩

section Frame

variable (b : Browser)

@[simp] theorem core_say (level : Level) (text : String) : (b.say level text).core = b.core := rfl

@[simp] theorem core_refresh : b.refresh.core = b.core := rfl

@[simp] theorem core_saveHistory : b.saveHistory.core = b.core := by
  unfold saveHistory
  split <;> rfl

@[simp] theorem core_rememberSplit : b.rememberSplit.core = b.core := by
  simp only [rememberSplit, core_saveHistory]
  rfl

@[simp] theorem core_reveal (line : Nat) : (b.reveal line).core = b.core := by
  simp only [reveal]
  split
  · rfl
  · split <;> rfl

@[simp] theorem core_reportObstacle (o : Session.Obstacle) :
    (b.reportObstacle o).core = b.core := by
  cases o <;> rfl

@[simp] theorem core_grip : b.grip.core = b.core := rfl

@[simp] theorem core_draw (width height : Nat) : (b.draw width height).1.core = b.core := rfl

/-- Nothing changes for the user, so that nothing has to be looked at again. -/
theorem moves_of_core_eq {b b' : Browser} (eq : b'.core = b.core) : Moves b.core b'.core := by
  rw [eq]

end Frame

/-! ## What the user does -/

section Events

variable (b : Browser)

theorem core_followSelection :
    b.followSelection.core = { b.core with panel := .following b.session } := by
  cases selected : b.session.selected? with
  | none =>
    simp only [followSelection, Panel.following, selected]
    rfl
  | some d =>
    simp only [followSelection, Panel.following, selected, core_refresh, core_reveal]
    rfl

theorem moves_askGloss : Moves b.core b.askGloss.core := by
  unfold askGloss
  split
  next o _ => exact moves_of_core_eq (b.core_reportObstacle o)
  next request asks =>
    split
    next text known => exact .single (.remember (c := b.core) asks known)
    next => exact .single (.ask (c := b.core) (.gloss request) asks)

theorem moves_askDetail : Moves b.core b.askDetail.core := by
  unfold askDetail
  split
  next o _ => exact moves_of_core_eq (b.core_reportObstacle o)
  next request asks =>
    split
    next => exact .refl
    next current _ => exact .single (.ask (c := b.core) (.detail request current) asks)

/-- The browser with a definition selected, before it follows. -/
def selecting (d : Definition) (b : Browser) : Browser :=
  { b with session := { b.session with selection := ⟨some d⟩ } }

theorem move_selecting (d : Definition) :
    Core.Move b.core (b.selecting d).followSelection.core := by
  rw [core_followSelection]
  exact .select b.core ⟨some d⟩

/-- A click on the first line of a definition selects it, the browser follows and asks for its
annotation.  A click on another line does nothing. -/
theorem click_cases (line : Nat) :
    (∃ d, b.session.outline.startingOn? line = some d ∧
      b.click line = (b.selecting d).followSelection.askGloss) ∨
      b.session.outline.startingOn? line = none ∧ b.click line = b := by
  unfold click Session.selectLine Selection.selectLine
  cases found : b.session.outline.startingOn? line with
  | none => exact .inr ⟨rfl, rfl⟩
  | some d => exact .inl ⟨d, rfl, rfl⟩

theorem moves_click (line : Nat) : Moves b.core (b.click line).core := by
  rcases b.click_cases line with ⟨d, -, eq⟩ | ⟨-, eq⟩
  · rw [eq]
    exact .trans (.single (b.move_selecting d)) (moves_askGloss _)
  · rw [eq]

/-- A step through the definitions leads to one of them. -/
theorem stepTarget_lt {count : Nat} (some_ : count ≠ 0) (forward : Bool) (position : Option Nat) :
    stepTarget forward count position < count := by
  unfold stepTarget
  grind

/-- If there are any, the one that a step leads to is selected and the browser follows. -/
theorem exists_step_eq (some_ : b.session.outline.size ≠ 0) (forward : Bool) :
    ∃ d, b.session.outline.get?
        (stepTarget forward b.session.outline.size b.session.selectedPosition?) = some d ∧
      b.step forward = (b.selecting d).followSelection := by
  have target := stepTarget_lt some_ forward b.session.selectedPosition?
  obtain ⟨d, here⟩ : ∃ d, b.session.outline.get?
      (stepTarget forward b.session.outline.size b.session.selectedPosition?) = some d :=
    ⟨_, List.getElem?_eq_getElem (l := b.session.outline.definitions) target⟩
  refine ⟨d, here, ?_⟩
  simp only [step, if_neg some_, Session.selectPosition, Selection.selectPosition, here,
    Session.selected?, Option.isSome_some, if_true, selecting]

theorem moves_step (forward : Bool) : Moves b.core (b.step forward).core := by
  by_cases none_ : b.session.outline.size = 0
  · rw [step, if_pos none_]
  · obtain ⟨d, -, eq⟩ := b.exists_step_eq none_ forward
    rw [eq]
    exact .single (b.move_selecting d)

theorem moves_reload (message : String) : Moves b.core (b.reload message).core := by
  unfold reload
  split
  next => exact .refl
  next text _ => exact .single (.reload b.core text)

theorem moves_handleKey (k : Key) : Moves b.core (b.handleKey k).core := by
  unfold handleKey
  split
  -- Two keys that do the same are two cases.  The other cases change the window, the divider or
  -- nothing.
  case h_3 | h_4 => exact b.moves_step true
  case h_5 | h_6 => exact b.moves_step false
  case h_7 => exact b.moves_askGloss
  case h_8 => exact b.moves_askDetail
  case h_9 => exact .single (.upload b.core _ _)
  case h_10 => exact b.moves_reload _
  case h_11 | h_12 | h_13 => exact moves_of_core_eq (core_rememberSplit _)
  all_goals exact .refl

theorem moves_handleMouse (a : MouseAction) (row : Nat) :
    Moves b.core (b.handleMouse a row).core := by
  cases a with
  | press =>
    simp only [handleMouse]
    split
    · exact moves_of_core_eq b.core_grip
    · split
      next line _ => exact b.moves_click line
      next => exact .refl
  | drag =>
    simp only [handleMouse]
    split <;> exact .refl
  | release =>
    simp only [handleMouse]
    split
    · exact .refl
    · exact moves_of_core_eq (core_rememberSplit _)
  | wheelDown => exact .refl
  | wheelUp => exact .refl
  | other => exact .refl

theorem moves_handle (e : Event) : Moves b.core (b.handle e).core := by
  cases e with
  | key k control =>
    cases control with
    | true =>
      simp only [handle]
      split <;> exact .refl
    | false => exact b.moves_handleKey k
  | mouse a row => exact b.moves_handleMouse a row
  | focusLost => exact .refl
  | other => exact .refl

end Events

/-! ## What goes on in the background -/

section Background

variable (b : Browser)

/-- An outcome is noted if it gives a note and is one for the selected definition and the loaded
file, -/
theorem core_receive_of_current {place : Place} {request : Session.Request}
    {outcome : Resolution.Outcome} {note : Note} (current : b.session.isCurrent request = true)
    (gives : noteOf? outcome = some note) :
    (b.receive (place.delivery request outcome)).core =
      { b.core with panel := b.panel.noted place note } := by
  cases outcome with
  | error failure =>
    cases gives
    cases place <;> simp only [Place.delivery, receive, current] <;> rfl
  | ok resolution =>
    obtain ⟨text, said, rfl⟩ := Option.map_eq_some_iff.mp gives
    cases place <;> simp only [Place.delivery, receive, current, said] <;> rfl

/-- and else it is passed over. -/
theorem core_receive_of_stale {place : Place} {request : Session.Request}
    {outcome : Resolution.Outcome}
    (stale : b.session.isCurrent request = true → outcome = .ok .stale) :
    (b.receive (place.delivery request outcome)).core = b.core := by
  cases current : b.session.isCurrent request with
  | false => cases place <;> simp only [Place.delivery, receive, current] <;> rfl
  | true =>
    rw [stale current]
    cases place <;> simp only [Place.delivery, receive, current] <;> rfl

theorem move_receive_outcome {n : Nat} (place : Place) {request : Session.Request}
    {outcome : Resolution.Outcome}
    (here : b.deliveries[n]? = some (place.delivery request outcome)) :
    Move b.core
      ({ b with deliveries := b.deliveries.eraseIdx n }.receive
        (place.delivery request outcome)).core := by
  by_cases noted : b.session.isCurrent request = true ∧ ∃ note, noteOf? outcome = some note
  · obtain ⟨current, note, gives⟩ := noted
    rw [core_receive_of_current { b with deliveries := b.deliveries.eraseIdx n } current gives]
    exact .note (c := b.core) here current gives
  · have stale : b.session.isCurrent request = true → outcome = .ok .stale := by
      intro current
      rw [← Core.noteOf?_eq_none_iff, Option.eq_none_iff_forall_ne_some]
      exact fun note gives => noted ⟨current, note, gives⟩
    rw [core_receive_of_stale { b with deliveries := b.deliveries.eraseIdx n } stale]
    refine .passOver (c := b.core) here ?_
    rintro place' request' outcome' eq current
    obtain ⟨rfl, rfl, rfl⟩ := Place.delivery_inj eq
    exact stale current

theorem moves_receiveAt (n : Nat) : Moves b.core (b.receiveAt n).core := by
  unfold receiveAt
  split
  next => exact .refl
  next delivery here =>
    cases delivery with
    | gloss request outcome => exact .single (b.move_receive_outcome .gloss here)
    | detail request outcome => exact .single (b.move_receive_outcome .detail here)
    | upload result =>
      cases result with
      | error failure =>
        refine .single (.passOver (c := b.core) here ?_)
        rintro place request outcome eq
        cases place <;> cases eq
      | ok file =>
        refine .single ?_
        simp only [receive, core_say, core_saveHistory, core_refresh]
        exact .load (c := b.core) here

theorem moves_receiveAll : Moves b.core b.receiveAll.core := by
  rw [receiveAll_eq]
  generalize b.deliveries.length = count
  induction count generalizing b with
  | zero => exact .refl
  | succ count ih => exact (b.moves_receiveAt 0).trans (ih (b.receiveAt 0))

theorem moves_tick : Moves b.core b.tick.core := by
  unfold tick
  split
  next => exact b.moves_receiveAll
  next w _ =>
    refine .trans ?_ (moves_receiveAll _)
    split
    · exact moves_reload { b with watch := some w.ask.2 } _
    · exact .refl

end Background

/-! ## Steps -/

/-- Whether a step is one of a task, by answers of the service. -/
def Step.isWork : Step → Bool
  | work _ _ => true
  | _ => false

/-- **Every step without answers is some moves.** -/
theorem moves_take (b : Browser) {step : Step} (idle : step.isWork = false) :
    Moves b.core (b.take step).core := by
  cases step with
  | event e => exact b.moves_handle e
  | draw width height => exact moves_of_core_eq (b.core_draw width height)
  | edit disk => exact .refl
  | notice e => exact .refl
  | tick => exact b.moves_tick
  | work n supply => cases idle
  | receive n => exact b.moves_receiveAt n

/-- **Every step with answers takes one task as far as they allow.** -/
theorem core_workOn (b : Browser) {n : Nat} (supply : Supply) {task : Task}
    (here : b.tasks[n]? = some task) :
    (b.workOn n supply).core = b.core.settle n (task.poll supply b.session.broker) := by
  rw [workOn, here]
  simp only [settle, Core.settle]
  rcases (task.poll supply b.session.broker).2 with waiting | delivery <;> rfl

end Browser
end CodeGloss
