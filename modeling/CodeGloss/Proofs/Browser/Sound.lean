import CodeGloss.Proofs.Browser.Polling
import CodeGloss.Proofs.Outline.Lookup

/-!
# What holds of a browser

What holds of the core of a browser at every moment, together with books of its broker
(`Core.Sound`), and that everything keeps it: the moves (`Core.Sound.move`) and the polling of a
task (`Core.Sound.settle`).

Two statements are about the notes in the panel.  If there is a text in it, an answer has told that
text for the selected definition and the loaded file.  And if a note says that something is on its
way, something is (`Core.Awaits`): a question is being followed up or its outcome is there, the
question is one for what is selected and loaded now, and its outcome is not going to be that the
file was replaced.  The second statement is why it does no harm that an outcome is passed over when
the selection or the file is another one by then, or when it says that the file was replaced.
Whoever selects something else or loads a file clears the panel, so a note that is there belongs to
a question that was asked later.
-/

namespace CodeGloss

open Service (Answer Inquiry)

/-! ## Requests that are current -/

namespace Definition

/-- The key of a definition determines the one under which annotations of it are stored. -/
theorem glossKey_of_key {d d' : Definition} (same : d.key = d'.key) : d.glossKey = d'.glossKey := by
  simp only [key, Key.mk.injEq] at same
  obtain ⟨-, name, firstLine, -⟩ := same
  unfold glossKey isAnonymous
  rw [name, firstLine]

end Definition

namespace Session

theorem isCurrent_iff {s : Session} {r : Request} :
    s.isCurrent r = true ↔
      s.fileId = some r.fileId ∧ ∃ d, s.selected? = some d ∧ d.key = r.definition.key := by
  simp [isCurrent, Selection.isSelected, selected?, Option.any_eq_true]

/-- What can be asked for is what is selected and loaded. -/
theorem request_eq_ok {s : Session} {r : Request} (asks : s.request = .ok r) :
    s.selected? = some r.definition ∧ s.fileId = some r.fileId := by
  unfold request at asks
  split at asks
  next => cases asks
  next => cases asks
  next selected loaded =>
    cases asks
    exact ⟨selected, loaded⟩

theorem isCurrent_of_request {s : Session} {r : Request} (asks : s.request = .ok r) :
    s.isCurrent r = true := by
  obtain ⟨selected, loaded⟩ := request_eq_ok asks
  exact isCurrent_iff.mpr ⟨loaded, _, selected, rfl⟩

/-- What is selected after the text was replaced, unless the selection had to be given up, is what
was selected before, as far as its key goes. -/
theorem selected?_setText {s : Session} {text : String} (kept : (s.setText text).2 = false)
    {d : Definition} (selected : s.selected? = some d) :
    ∃ d', (s.setText text).1.selected? = some d' ∧ d'.key = d.key := by
  rcases s.selection.follow_cases (Outline.ofText s.options s.hint text) with
    ⟨nothing, -⟩ | ⟨d₀, before, ⟨d', -, same, eq⟩ | ⟨-, eq⟩⟩
  · rw [selected?, nothing] at selected
    cases selected
  · rw [selected?, before, Option.some.injEq] at selected
    subst selected
    refine ⟨d', ?_, same⟩
    simp only [setText, renew, selected?, eq]
  · simp only [setText, renew, eq] at kept
    cases kept

theorem isCurrent_setText {s : Session} {text : String} (kept : (s.setText text).2 = false)
    {r : Request} (current : s.isCurrent r = true) : (s.setText text).1.isCurrent r = true := by
  obtain ⟨loaded, d, selected, same⟩ := isCurrent_iff.mp current
  obtain ⟨d', selected', same'⟩ := selected?_setText kept selected
  exact isCurrent_iff.mpr ⟨loaded, d', selected', same'.trans same⟩

end Session

namespace Core

/-! ## What is on its way -/

/-- Whether the outcome of a question is on its way that will be noted at a place: a task follows
the question up with a ticket of the epoch or with none yet, or the outcome is there and is not that
the file was replaced. -/
def Awaits (epoch : Nat) (place : Place) (c : Core) : Prop :=
  ∃ request, c.session.isCurrent request = true ∧
    ((∃ (q : Question) (ticket : Option Ticket), q.task ticket ∈ c.tasks ∧ q.place = place ∧
        q.request = request ∧ ∀ t, ticket = some t → t.IsLive epoch) ∨
      ∃ outcome, place.delivery request outcome ∈ c.deliveries ∧ outcome ≠ .ok .stale)

/-- What is on its way stays so while its task or its outcome stays and what is selected and loaded
does. -/
theorem Awaits.mono {epoch : Nat} {place : Place} {c c' : Core} (awaits : c.Awaits epoch place)
    (current : ∀ request, c.session.isCurrent request = true →
      c'.session.isCurrent request = true)
    (tasks : ∀ task ∈ c.tasks, task ∈ c'.tasks)
    (deliveries : ∀ request outcome, c.session.isCurrent request = true →
      outcome ≠ .ok .stale → place.delivery request outcome ∈ c.deliveries →
        place.delivery request outcome ∈ c'.deliveries) : c'.Awaits epoch place := by
  obtain ⟨request, is_current, ⟨q, ticket, mem, rest⟩ | ⟨outcome, mem, told⟩⟩ := awaits
  · exact ⟨request, current _ is_current, Or.inl ⟨q, ticket, tasks _ mem, rest⟩⟩
  · exact ⟨request, current _ is_current,
      Or.inr ⟨outcome, deliveries _ _ is_current told mem, told⟩⟩

section Positions

variable {α : Type} {l : List α} {n : Nat} {a b : α}

/-- Only the member at a position is erased there, -/
theorem mem_eraseIdx_of_ne (mem : a ∈ l) (here : l[n]? = some b) (other : a ≠ b) :
    a ∈ l.eraseIdx n := by
  obtain ⟨m, there⟩ := List.getElem?_of_mem mem
  refine List.mem_eraseIdx_iff_getElem?.mpr ⟨m, ?_, there⟩
  rintro rfl
  exact other (Option.some.inj (there.symm.trans here))

/-- and only it gives way to another one. -/
theorem mem_set_of_ne (mem : a ∈ l) (here : l[n]? = some b) (other : a ≠ b) (new : α) :
    a ∈ l.set n new := by
  obtain ⟨m, there⟩ := List.getElem?_of_mem mem
  refine List.mem_of_getElem? (i := m) ?_
  rw [List.getElem?_set_ne, there]
  rintro rfl
  exact other (Option.some.inj (there.symm.trans here))

end Positions

/-! ## What holds at every moment -/

/-- What holds of a core and of books of its broker at every moment. -/
structure Sound (k : Books) (c : Core) : Prop where
  broker : k.broker = c.session.broker
  books : k.InOrder
  /-- The file of the session is the one that its broker knows. -/
  file : c.session.broker.fileId = c.session.fileId
  /-- Who follows a question up has a ticket for it or none yet, and a file is loaded. -/
  task : ∀ (q : Question) (ticket : Option Ticket), q.task ticket ∈ c.tasks →
    c.session.fileId.isSome ∧ ∀ t, ticket = some t → k.Held q.demand t
  /-- An outcome with a text was told for its question. -/
  told : ∀ (request : Session.Request) (r : Resolution) (text : String),
    .gloss request (.ok r) ∈ c.deliveries → r.text? = some text →
      k.Gave request.fileId request.definition.glossKey text
  /-- The text in the panel was told for what is selected and loaded. -/
  ready : ∀ text, c.panel.gloss = .ready text → ∃ d fileId,
    c.session.selected? = some d ∧ c.session.fileId = some fileId ∧ k.Gave fileId d.glossKey text
  /-- What the panel says is on its way is on its way. -/
  loading : ∀ place, c.panel.note place = .loading → c.Awaits k.broker.epoch place

section Sound

variable {k : Books} {c : Core} (h : c.Sound k)
include h

/-- A text that is known was told for the loaded file. -/
theorem Sound.gave_of_get? {d : Definition} {text : String}
    (known : c.session.broker.get? d = some text) :
    ∃ fileId, c.session.fileId = some fileId ∧ k.Gave fileId d.glossKey text := by
  have sound := h.books.sound
  rw [Broker.get?, ← h.broker] at known
  cases loaded : c.session.fileId with
  | none =>
    have unloaded : k.broker.fileId = none := by
      rw [h.broker, h.file, loaded]
    rw [sound.get?_eq_none unloaded] at known
    cases known
  | some fileId =>
    refine ⟨fileId, rfl, Books.gave_of_known sound.slip_file ?_ (sound.entries_eq ▸ known)⟩
    rw [h.broker, h.file, loaded]

/-! ## Moves -/

theorem Sound.select (selection : Selection) :
    ({ c with
        session := { c.session with selection }
        panel := .following { c.session with selection } } : Core).Sound k :=
  { h with
    ready := fun text ready => by
      obtain ⟨d, selected, known⟩ := Panel.gloss_following ready
      obtain ⟨fileId, loaded, gave⟩ := h.gave_of_get? (d := d) known
      exact ⟨d, fileId, selected, loaded, gave⟩
    loading := fun place loading => absurd loading (Panel.note_following_ne_loading _ place) }

theorem Sound.remember {request : Session.Request} {text : String}
    (asks : c.session.request = .ok request)
    (known : c.session.broker.get? request.definition = some text) :
    ({ c with panel := c.panel.noted .gloss (.ready text) } : Core).Sound k :=
  { h with
    ready := fun text' ready => by
      cases ready
      obtain ⟨fileId, loaded, gave⟩ := h.gave_of_get? known
      exact ⟨_, fileId, (Session.request_eq_ok asks).1, loaded, gave⟩
    loading := fun place loading => by
      rw [Panel.note_noted] at loading
      split at loading
      next => cases loading
      next => exact h.loading place loading }

/-- A question that is asked is followed up by a task that has no ticket yet. -/
theorem Sound.ask (q : Question) (asks : c.session.request = .ok q.request) :
    ({ c with
        panel := c.panel.noted q.place .loading
        tasks := c.tasks ++ [q.task none] } : Core).Sound k :=
  { h with
    task := fun q' ticket mem => by
      rcases List.mem_append.mp mem with old | new
      · exact h.task q' ticket old
      · have same := List.mem_singleton.mp new
        refine ⟨?_, ?_⟩
        · show c.session.fileId.isSome
          rw [(Session.request_eq_ok asks).2]
          rfl
        · rintro t rfl
          cases q <;> cases q' <;> cases same
    ready := fun text ready => by
      refine h.ready text ?_
      cases q with
      | gloss request => cases ready
      | detail request current => exact ready
    loading := fun place loading => by
      rw [Panel.note_noted] at loading
      split at loading
      next same =>
        refine ⟨q.request, Session.isCurrent_of_request asks,
          Or.inl ⟨q, none, ?_, same.symm, rfl, ?_⟩⟩
        · exact List.mem_append_right _ (List.mem_singleton.mpr rfl)
        · rintro t ⟨⟩
      next =>
        exact (h.loading place loading).mono (fun _ current => current)
          (fun _ mem => List.mem_append_left _ mem) (fun _ _ _ _ mem => mem) }

theorem Sound.upload (name text : String) :
    ({ c with tasks := c.tasks ++ [.upload name text none] } : Core).Sound k :=
  { h with
    task := fun q ticket mem => by
      rcases List.mem_append.mp mem with old | new
      · exact h.task q ticket old
      · cases q <;> cases List.mem_singleton.mp new
    loading := fun place loading =>
      (h.loading place loading).mono (fun _ current => current)
        (fun _ mem => List.mem_append_left _ mem) (fun _ _ _ _ mem => mem) }

/-- While the selection does not have to be given up, the panel stays about what is selected. -/
theorem Sound.reload (text : String) :
    ({ c with
        session := (c.session.setText text).1
        panel := if (c.session.setText text).2 then {} else c.panel } : Core).Sound k := by
  cases gone : (c.session.setText text).2 with
  | true =>
    exact { h with
      ready := fun text ready => by cases ready
      loading := fun place loading => by cases place <;> cases loading }
  | false =>
    exact { h with
      ready := fun text' ready => by
        obtain ⟨d, fileId, selected, loaded, gave⟩ := h.ready text' ready
        obtain ⟨d', selected', same⟩ := Session.selected?_setText gone selected
        exact ⟨d', fileId, selected', loaded, Definition.glossKey_of_key same ▸ gave⟩
      loading := fun place loading =>
        (h.loading place loading).mono (fun _ current => Session.isCurrent_setText gone current)
          (fun _ mem => mem) (fun _ _ _ _ mem => mem) }

theorem Sound.passOver {n : Nat} {delivery : Delivery} (here : c.deliveries[n]? = some delivery)
    (stale : ∀ (place : Place) request outcome, delivery = place.delivery request outcome →
      c.session.isCurrent request = true → outcome = .ok .stale) :
    ({ c with deliveries := c.deliveries.eraseIdx n } : Core).Sound k :=
  { h with
    told := fun request r text mem said =>
      h.told request r text (List.mem_of_mem_eraseIdx mem) said
    loading := fun place loading => by
      refine (h.loading place loading).mono (fun _ current => current) (fun _ mem => mem) ?_
      intro request outcome current told mem
      refine mem_eraseIdx_of_ne mem here ?_
      rintro same
      exact told (stale place request outcome same.symm current) }

/-- An outcome that is noted was told for what is selected and loaded now. -/
theorem Sound.note {n : Nat} {place : Place} {request : Session.Request}
    {outcome : Resolution.Outcome} {note : Note}
    (here : c.deliveries[n]? = some (place.delivery request outcome))
    (current : c.session.isCurrent request = true) (gives : noteOf? outcome = some note) :
    ({ c with
        panel := c.panel.noted place note
        deliveries := c.deliveries.eraseIdx n } : Core).Sound k :=
  { h with
    told := fun request r text mem said =>
      h.told request r text (List.mem_of_mem_eraseIdx mem) said
    ready := fun text ready => by
      cases place with
      | detail => exact h.ready text ready
      | gloss =>
        have ready : note = .ready text := ready
        rw [ready] at gives
        cases outcome with
        | error failure => cases gives
        | ok r =>
          obtain ⟨text', said, eq⟩ := Option.map_eq_some_iff.mp gives
          cases eq
          obtain ⟨loaded, d, selected, same⟩ := Session.isCurrent_iff.mp current
          refine ⟨d, request.fileId, selected, loaded, ?_⟩
          rw [Definition.glossKey_of_key same]
          exact h.told request r text (List.mem_of_getElem? here) said
    loading := fun other loading => by
      rw [Panel.note_noted] at loading
      split at loading
      next =>
        rw [loading] at gives
        cases outcome with
        | error failure => cases gives
        | ok r =>
          obtain ⟨text, -, eq⟩ := Option.map_eq_some_iff.mp gives
          cases eq
      next apart =>
        refine (h.loading other loading).mono (fun _ current => current) (fun _ mem => mem) ?_
        intro request' outcome' _ _ mem
        exact mem_eraseIdx_of_ne mem here fun same => apart (Place.delivery_inj same).1 }

/-- When a file is loaded the panel is cleared, and tickets and outcomes stay what they are. -/
theorem Sound.load (n : Nat) (fileId : String) :
    ({ c with
        session := c.session.loadFile fileId c.session.text
        panel := {}
        deliveries := c.deliveries.eraseIdx n } : Core).Sound (k.switchFile (some fileId)) where
  broker := by
    show k.broker.switchFile _ = c.session.broker.switchFile _
    rw [h.broker]
  books := h.books.switchFile (some fileId)
  file := rfl
  task q ticket mem :=
    ⟨rfl, fun t has => ((h.task q ticket mem).2 t has).grows (k.grows_switchFile _)⟩
  told request r text mem said :=
    (k.grows_switchFile _).gave (h.told request r text (List.mem_of_mem_eraseIdx mem) said)
  ready text ready := by cases ready
  loading place loading := by cases place <;> cases loading

/-- **Moves keep what holds.** -/
theorem Sound.move {c' : Core} (move : c.Move c') :
    c'.Sound { k with broker := c'.session.broker } := by
  have kept : ∀ {c' : Core}, c'.session.broker = c.session.broker → c'.Sound k →
      c'.Sound { k with broker := c'.session.broker } := by
    intro c' same h'
    rw [same, ← h.broker]
    exact h'
  cases move with
  | select selection => exact kept rfl (h.select selection)
  | remember asks known => exact kept rfl (h.remember asks known)
  | ask q asks => exact kept rfl (h.ask q asks)
  | upload name text => exact kept rfl (h.upload name text)
  | reload text => exact kept rfl (h.reload text)
  | passOver here stale => exact kept rfl (h.passOver here stale)
  | note here current gives => exact kept rfl (h.note here current gives)
  | @load n file here =>
    have loaded := h.load n file.id
    rw [Books.switchFile, h.broker] at loaded
    exact loaded

theorem Sound.moves {c' : Core} (moves : c.Moves c') :
    c'.Sound { k with broker := c'.session.broker } := by
  induction moves with
  | refl =>
    rw [← h.broker]
    exact h
  | tail _ move ih => exact ih.move move

/-! ## Tasks -/

/-- What holds when the task at a position goes on waiting, as `task'`. -/
theorem Sound.wait {k' : Books} (polled : k.Polled k') {n : Nat} {task task' : Task}
    (here : c.tasks[n]? = some task)
    (held : ∀ (q : Question) (ticket : Option Ticket), task' = q.task ticket →
      c.session.fileId.isSome ∧ ∀ t, ticket = some t → k'.Held q.demand t)
    (stays : ∀ (q : Question) (ticket : Option Ticket), task = q.task ticket →
      c.session.isCurrent q.request = true → (∀ t, ticket = some t → t.IsLive k.broker.epoch) →
        ∃ ticket', task' = q.task ticket' ∧ ∀ t, ticket' = some t → t.IsLive k.broker.epoch) :
    (c.settle n (k'.broker, .inl task')).Sound k' where
  broker := rfl
  books := polled.inOrder
  file := by
    show k'.broker.fileId = c.session.fileId
    rw [polled.fileId, h.broker, h.file]
  task q ticket mem := by
    rcases List.mem_or_eq_of_mem_set mem with old | new
    · obtain ⟨loaded, held⟩ := h.task q ticket old
      exact ⟨loaded, fun t has => (held t has).grows polled.grows⟩
    · exact held q ticket new.symm
  told request r text mem said := polled.grows.gave (h.told request r text mem said)
  ready text ready := by
    obtain ⟨d, fileId, selected, loaded, gave⟩ := h.ready text ready
    exact ⟨d, fileId, selected, loaded, polled.grows.gave gave⟩
  loading place loading := by
    rw [polled.epoch]
    obtain ⟨request, current, ⟨q, ticket, mem, at_, rfl, live⟩ | delivered⟩ :=
      h.loading place loading
    · refine ⟨q.request, current, Or.inl ?_⟩
      by_cases own : q.task ticket = task
      · obtain ⟨ticket', eq, live'⟩ := stays q ticket own.symm current live
        refine ⟨q, ticket', eq ▸ ?_, at_, rfl, live'⟩
        exact List.mem_set (List.getElem?_eq_some_iff.mp here).1 _
      · exact ⟨q, ticket, mem_set_of_ne mem here own task', at_, rfl, live⟩
    · exact ⟨request, current, Or.inr delivered⟩

/-- What holds when something has come of the task at a position. -/
theorem Sound.deliver {k' : Books} (polled : k.Polled k') {n : Nat} {task : Task}
    {delivery : Delivery} (here : c.tasks[n]? = some task)
    (told : ∀ (request : Session.Request) (r : Resolution) (text : String),
      delivery = .gloss request (.ok r) → r.text? = some text →
        k'.Gave request.fileId request.definition.glossKey text)
    (comes : ∀ (q : Question) (ticket : Option Ticket), task = q.task ticket →
      c.session.isCurrent q.request = true → (∀ t, ticket = some t → t.IsLive k.broker.epoch) →
        ∃ outcome, delivery = q.place.delivery q.request outcome ∧ outcome ≠ .ok .stale) :
    (c.settle n (k'.broker, .inr delivery)).Sound k' where
  broker := rfl
  books := polled.inOrder
  file := by
    show k'.broker.fileId = c.session.fileId
    rw [polled.fileId, h.broker, h.file]
  task q ticket mem := by
    obtain ⟨loaded, held⟩ := h.task q ticket (List.mem_of_mem_eraseIdx mem)
    exact ⟨loaded, fun t has => (held t has).grows polled.grows⟩
  told request r text mem said := by
    rcases List.mem_append.mp mem with old | new
    · exact polled.grows.gave (h.told request r text old said)
    · exact told request r text (List.mem_singleton.mp new).symm said
  ready text ready := by
    obtain ⟨d, fileId, selected, loaded, gave⟩ := h.ready text ready
    exact ⟨d, fileId, selected, loaded, polled.grows.gave gave⟩
  loading place loading := by
    rw [polled.epoch]
    obtain ⟨request, current, ⟨q, ticket, mem, rfl, rfl, live⟩ | ⟨outcome, mem, told⟩⟩ :=
      h.loading place loading
    · refine ⟨q.request, current, ?_⟩
      by_cases own : q.task ticket = task
      · obtain ⟨outcome, eq, told⟩ := comes q ticket own.symm current live
        refine Or.inr ⟨outcome, List.mem_append_right _ ?_, told⟩
        exact List.mem_singleton.mpr eq.symm
      · exact Or.inl ⟨q, ticket, mem_eraseIdx_of_ne mem here own, rfl, rfl, live⟩
    · exact ⟨request, current, Or.inr ⟨outcome, List.mem_append_left _ mem, told⟩⟩

/-- The task of a question goes on with the ticket of the question, or its outcome is there. -/
theorem Sound.settle_question {n : Nat} {q : Question} {ticket : Option Ticket}
    (here : c.tasks[n]? = some (q.task ticket)) (supply : Supply) :
    (c.settle n ((k.pollQuestion supply q ticket).1.broker,
      (k.pollQuestion supply q ticket).2)).Sound (k.pollQuestion supply q ticket).1 := by
  obtain ⟨loaded, held⟩ := h.task q ticket (List.mem_of_getElem? here)
  have polled : k.Polled (k.attend supply q.demand ticket).1 := by
    refine h.books.polled_attend supply ?_ held
    rw [h.broker, h.file]
    exact loaded
  have held' : (k.attend supply q.demand ticket).1.Held q.demand (k.ticketed q.demand ticket).2 :=
    (Books.held_ticketed h.books.sound held).grows (Books.grows_present _ supply _)
  have live : c.session.isCurrent q.request = true →
      (∀ t, ticket = some t → t.IsLive k.broker.epoch) →
        (k.ticketed q.demand ticket).2.IsLive k.broker.epoch := by
    intro current live
    refine Books.isLive_ticketed h.books.sound ?_ live
    rw [h.broker, h.file, (Session.isCurrent_iff.mp current).1]
    cases q <;> rfl
  simp only [Books.pollQuestion]
  cases given : (k.attend supply q.demand ticket).2 with
  | none =>
    refine h.wait polled here ?_ ?_
    · rintro q' ticket' same
      obtain ⟨rfl, rfl⟩ := Question.task_inj same
      exact ⟨loaded, fun t has => Option.some.inj has ▸ held'⟩
    · rintro q' ticket' same current is_live
      obtain ⟨rfl, rfl⟩ := Question.task_inj same
      exact ⟨_, rfl, fun t has => Option.some.inj has ▸ live current is_live⟩
  | some outcome =>
    have yields := Books.yields_present supply _ given
    refine h.deliver polled here ?_ ?_
    · rintro request r text about said
      cases q with
      | detail request' current => cases about
      | gloss request' =>
        cases about
        exact held'.gave polled.inOrder.sound yields said
    · rintro q' ticket' same current is_live
      obtain ⟨rfl, rfl⟩ := Question.task_inj same
      refine ⟨outcome, rfl, held'.ne_stale polled.inOrder.timely ?_ yields⟩
      rw [polled.epoch]
      exact live current is_live

/-- **Polling a task keeps what holds.** -/
theorem Sound.settle {n : Nat} {task : Task} (here : c.tasks[n]? = some task) (supply : Supply) :
    (c.settle n (task.poll supply c.session.broker)).Sound (k.pollTask supply task).1 := by
  rw [← h.broker, Books.broker_pollTask]
  rcases task.cases_question with ⟨q, ticket, rfl⟩ | ⟨name, text, call, rfl⟩
  · rw [Books.pollTask_task]
    exact h.settle_question here supply
  · -- That a source is to be stored is of no concern to any question.
    have apart : ∀ {call : Option Nat} {P : Prop} (q : Question) (ticket : Option Ticket),
        .upload name text call = q.task ticket → P := by
      intro call P q ticket same
      cases q <;> cases same
    have polled := h.books.polled_called name text call
    simp only [Books.pollTask]
    split
    · refine h.wait polled here ?_ ?_
      · exact fun q ticket same => apart q ticket same
      · exact fun q ticket same => apart q ticket same
    · refine h.deliver polled here ?_ ?_
      · rintro request r text ⟨⟩
      · exact fun q ticket same => apart q ticket same

end Sound

end Core
end CodeGloss
