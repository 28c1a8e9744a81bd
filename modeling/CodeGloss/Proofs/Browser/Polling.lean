import CodeGloss.Proofs.Broker.Held
import CodeGloss.Proofs.Broker.Origin
import CodeGloss.Proofs.Browser.Moves

/-!
# Tasks and the books

A task of the browser makes a demand on the broker and then shows the ticket until there is an
outcome.  What is known about runs of the broker is known about its books, so here tasks are polled
with the books in place of the broker (`Books.pollTask`), to the same effect
(`Books.broker_pollTask`).  Storing a source is no business of the broker's; all that it leaves in
the books is the slip of its inquiry.

The books stay in order (`Books.InOrder`) whatever a task does.
-/

namespace CodeGloss

open Service (Answer Inquiry)

/-! ## Questions -/

namespace Question

/-- What is demanded of the broker to answer a question. -/
def demand : Question → Demand
  | gloss request => .gloss request.definition request.fileId
  | detail request current => .detail request.definition request.fileId current

/-- What becomes of a question when its ticket was shown: its task goes on, or there is an
outcome. -/
def after (q : Question) (ticket : Ticket) : Option Resolution.Outcome → Task ⊕ Delivery
  | none => .inl (q.task (some ticket))
  | some outcome => .inr (q.place.delivery q.request outcome)

end Question

/-- Makes a demand. -/
def Broker.demand : Demand → Broker → Broker × Ticket
  | .gloss d fileId => resolve d fileId
  | .detail d fileId current => sayMore d fileId current

namespace Task

/-- A task follows a question up, or it is to have a source stored. -/
theorem cases_question (task : Task) :
    (∃ (q : Question) (ticket : Option Ticket), task = q.task ticket) ∨
      ∃ name text call, task = .upload name text call := by
  cases task with
  | gloss request ticket => exact Or.inl ⟨.gloss request, ticket, rfl⟩
  | detail request current ticket => exact Or.inl ⟨.detail request current, ticket, rfl⟩
  | upload name text call => exact Or.inr ⟨name, text, call, rfl⟩

/-- Tasks that follow questions up differ in what they demand and in nothing else. -/
theorem poll_task (supply : Supply) (b : Broker) (q : Question) (ticket : Option Ticket) :
    (q.task ticket).poll supply b =
      let asked := ticketed (Broker.demand q.demand) b ticket
      ((asked.1.present supply asked.2).1, q.after asked.2 (asked.1.present supply asked.2).2) := by
  cases q with
  | gloss request =>
    simp only [Question.task, poll, Question.demand, Broker.demand]
    split
    next shown => simp only [shown, Question.after, Question.task]
    next shown =>
      simp only [shown, Question.after, Question.place, Place.delivery, Question.request]
  | detail request current =>
    simp only [Question.task, poll, Question.demand, Broker.demand]
    split
    next shown => simp only [shown, Question.after, Question.task]
    next shown =>
      simp only [shown, Question.after, Question.place, Place.delivery, Question.request]

/-- What a task demands when it goes on. -/
def demands : Task → List Demand
  | gloss request none => [.gloss request.definition request.fileId]
  | detail request current none => [.detail request.definition request.fileId current]
  | _ => []

end Task

namespace Books

/-! ## Polling a task -/

/-- The ticket for a demand, which is made now if there is none yet. -/
def ticketed (x : Demand) (k : Books) : Option Ticket → Books × Ticket
  | some ticket => (k, ticket)
  | none => k.demand x

/-- Shows the ticket for a demand. -/
def attend (supply : Supply) (x : Demand) (k : Books) (ticket : Option Ticket) :
    Books × Option Resolution.Outcome :=
  (k.ticketed x ticket).1.present supply (k.ticketed x ticket).2

/-- The number of the inquiry that has a source stored, which is made now if it was not yet. -/
def called (name text : String) (k : Books) : Option Nat → Books × Nat
  | some call => (k, call)
  | none => (k.enter none (k.broker.issue (.upload name text)), k.broker.nextCall)

/-- Takes a task that follows a question up as far as the answers at hand allow. -/
def pollQuestion (supply : Supply) (q : Question) (k : Books) (ticket : Option Ticket) :
    Books × (Task ⊕ Delivery) :=
  let shown := k.attend supply q.demand ticket
  (shown.1, q.after (k.ticketed q.demand ticket).2 shown.2)

/-- Takes a task as far as the answers at hand allow. -/
def pollTask (supply : Supply) (k : Books) : Task → Books × (Task ⊕ Delivery)
  | .gloss request ticket => k.pollQuestion supply (.gloss request) ticket
  | .detail request current ticket => k.pollQuestion supply (.detail request current) ticket
  | .upload name text call =>
    let (k, call) := k.called name text call
    match k.broker.answer? supply call with
    | none => (k, .inl (.upload name text (some call)))
    | some answer => (k, .inr (.upload answer.toFile))

section Polling

variable (supply : Supply) (k : Books)

theorem pollTask_task (q : Question) (ticket : Option Ticket) :
    k.pollTask supply (q.task ticket) = k.pollQuestion supply q ticket := by
  cases q <;> rfl

theorem fst_pollTask_upload (name text : String) (call : Option Nat) :
    (k.pollTask supply (.upload name text call)).1 = (k.called name text call).1 := by
  simp only [pollTask]
  split <;> rfl

/-- The ticket is the one that the broker hands out. -/
theorem broker_ticketed (x : Demand) (ticket : Option Ticket) :
    Task.ticketed (Broker.demand x) k.broker ticket =
      ((k.ticketed x ticket).1.broker, (k.ticketed x ticket).2) := by
  cases ticket with
  | some ticket => rfl
  | none => cases x <;> rfl

theorem present_eq (ticket : Ticket) :
    k.broker.present supply ticket =
      ((k.present supply ticket).1.broker, (k.present supply ticket).2) :=
  Prod.ext (k.broker_present supply ticket).1.symm (k.broker_present supply ticket).2.symm

/-- **The books go along with the broker** when a task is polled, and the same comes of it. -/
theorem broker_pollTask (task : Task) :
    task.poll supply k.broker =
      ((k.pollTask supply task).1.broker, (k.pollTask supply task).2) := by
  rcases task.cases_question with ⟨q, ticket, rfl⟩ | ⟨name, text, call, rfl⟩
  · simp only [Task.poll_task, broker_ticketed, present_eq, pollTask_task, pollQuestion, attend]
  · cases call with
    | some call =>
      cases given : k.broker.answer? supply call <;> simp only [Task.poll, pollTask, called, given]
    | none =>
      cases given : (k.broker.issue (.upload name text)).answer? supply k.broker.nextCall <;>
        simp only [Task.poll, pollTask, called, enter, given]

end Polling

/-! ## Tickets of tasks -/

section Ticketed

variable {k : Books} {x : Demand} {ticket : Option Ticket}

theorem epoch_ticketed : (k.ticketed x ticket).1.broker.epoch = k.broker.epoch := by
  cases ticket with
  | some ticket => rfl
  | none => exact epoch_demand x

theorem fileId_ticketed (loaded : k.broker.fileId.isSome) :
    (k.ticketed x ticket).1.broker.fileId = k.broker.fileId := by
  cases ticket with
  | some ticket => rfl
  | none => exact fileId_demand loaded x

theorem receipts_ticketed : (k.ticketed x ticket).1.receipts = k.receipts := by
  cases ticket with
  | some ticket => rfl
  | none => exact receipts_demand x

theorem grows_ticketed : k.Grows (k.ticketed x ticket).1 := by
  cases ticket with
  | some ticket => exact .refl k
  | none => exact grows_demand x

theorem Sound.ticketed (h : k.Sound) : (k.ticketed x ticket).1.Sound := by
  cases ticket with
  | some ticket => exact h
  | none => exact h.demand x

theorem held_ticketed (h : k.Sound) (held : ∀ t, ticket = some t → k.Held x t) :
    (k.ticketed x ticket).1.Held x (k.ticketed x ticket).2 := by
  cases ticket with
  | some ticket => exact held ticket rfl
  | none => exact (h.issued x).held (h.demand x)

/-- A demand that is made for the loaded file gets a ticket of the current epoch. -/
theorem isLive_ticketed (h : k.Sound) (loaded : k.broker.fileId = some x.fileId)
    (live : ∀ t, ticket = some t → t.IsLive k.broker.epoch) :
    (k.ticketed x ticket).2.IsLive k.broker.epoch := by
  cases ticket with
  | some ticket => exact live ticket rfl
  | none =>
    have same := fileId_demand (by rw [loaded]; rfl) x
    rw [← epoch_demand x]
    refine (h.issued x).isLive (Broker.isElsewhere_eq_false_iff.mpr (Or.inr ?_))
    rw [same, loaded]

end Ticketed

/-! ## Books in order -/

/-- Whether the books are as they are whenever a task may be polled. -/
structure InOrder (k : Books) : Prop where
  sound : k.Sound
  settled : k.Settled
  timely : k.Timely

theorem inOrder_empty : ({} : Books).InOrder := ⟨sound_empty, settled_empty, timely_empty⟩

theorem InOrder.switchFile {k : Books} (h : k.InOrder) (fileId : Option String) :
    (k.switchFile fileId).InOrder :=
  ⟨h.sound.switchFile h.settled fileId, h.settled, h.sound.timely_switchFile fileId⟩

/-- What is true of the books before and after a task was polled while a file was loaded. -/
structure Polled (k k' : Books) : Prop where
  inOrder : k'.InOrder
  grows : k.Grows k'
  epoch : k'.broker.epoch = k.broker.epoch
  fileId : k'.broker.fileId = k.broker.fileId

section Polled

variable {k : Books} (supply : Supply)

theorem grows_attend (x : Demand) (ticket : Option Ticket) :
    k.Grows (k.attend supply x ticket).1 :=
  grows_ticketed.trans (grows_present _ supply _)

theorem InOrder.polled_attend (h : k.InOrder) {x : Demand} {ticket : Option Ticket}
    (loaded : k.broker.fileId.isSome) (held : ∀ t, ticket = some t → k.Held x t) :
    k.Polled (k.attend supply x ticket).1 where
  inOrder := by
    refine ⟨h.sound.ticketed.present supply (held_ticketed h.sound held).detail, ?_, ?_⟩
    · cases ticket with
      | some ticket => exact h.settled.present supply ticket
      | none => exact h.settled.demand x supply
    · cases ticket with
      | some ticket => exact h.timely.present supply ticket
      | none => exact (h.timely.demand x).present supply _
  grows := grows_attend supply x ticket
  epoch := by rw [attend, epoch_present, epoch_ticketed]
  fileId := by rw [attend, fileId_present, fileId_ticketed loaded]

theorem InOrder.polled_called (h : k.InOrder) (name text : String) (call : Option Nat) :
    k.Polled (k.called name text call).1 := by
  cases call with
  | some call => exact ⟨h, .refl k, rfl, rfl⟩
  | none =>
    exact ⟨⟨h.sound.issue _, h.settled, h.timely⟩, k.grows_enter none rfl, rfl, rfl⟩

theorem grows_pollTask (task : Task) : k.Grows (k.pollTask supply task).1 := by
  rcases task.cases_question with ⟨q, ticket, rfl⟩ | ⟨name, text, call, rfl⟩
  · rw [pollTask_task]
    exact grows_attend supply q.demand ticket
  · rw [fst_pollTask_upload]
    cases call with
    | some call => exact .refl k
    | none => exact k.grows_enter none rfl

/-- What a task has asked for is what it demanded. -/
theorem From.pollTask {demanded more : Definition → String → Prop} (h : k.From demanded)
    {task : Task} (le : ∀ d fileId, demanded d fileId → more d fileId)
    (demands : ∀ d fileId, .gloss d fileId ∈ task.demands → more d fileId) :
    (k.pollTask supply task).1.From more := by
  have h := h.mono le
  rcases task.cases_question with ⟨q, ticket, rfl⟩ | ⟨name, text, call, rfl⟩
  · rw [pollTask_task]
    refine From.present ?_ supply _
    cases ticket with
    | some ticket => exact h
    | none =>
      refine h.demand fun d fileId eq => demands d fileId ?_
      rw [← eq]
      cases q <;> exact List.mem_singleton.mpr rfl
  · rw [fst_pollTask_upload]
    cases call with
    | some call => exact h
    | none => exact h.enter rfl

/-- Only answers that are at hand are taken, each as one to its inquiry. -/
theorem mem_receipts_pollTask (h : k.Sound) {task : Task} {r : Nat × Answer}
    (mem : r ∈ (k.pollTask supply task).1.receipts) :
    r ∈ k.receipts ∨ ∃ s, (k.pollTask supply task).1.slips[r.1]? = some s ∧
      supply r.1 s.inquiry = some r.2 := by
  rcases task.cases_question with ⟨q, ticket, rfl⟩ | ⟨name, text, call, rfl⟩
  · rw [pollTask_task] at mem ⊢
    have taken := mem_receipts_present supply h.ticketed mem
    rwa [receipts_ticketed] at taken
  · rw [fst_pollTask_upload] at mem
    left
    cases call with
    | some call => exact mem
    | none => exact mem

end Polled
end Books
end CodeGloss
