import CodeGloss.Proofs.Broker.Ledger

/-!
# Sound ledgers

What holds of the ledger at every moment of every run.  Its books are sound and every fetch in them
has made its first step; the epoch says how often a file was replaced; every answer that was taken
had come in.  Of an errand three things hold, each at a moment of its own: it was made by its
demand, its ticket is what the books then had for the demand (`Books.Issued`), and if it was served,
its outcome is what the books had for the ticket when it was (`Books.Yields`).

The ledger of a moment depends on the events up to then and on nothing that comes later.  So what
was once true of an errand stays true, and a step of a run has to be looked at only for the errand
that it is about.
-/

namespace CodeGloss

open Service (Answer Inquiry)

namespace Ledger

/-! ## Events one by one -/

section Step

variable (l : Ledger)

/-- Everything that showing a ticket can do. -/
theorem attend_cases (n : Nat) :
    l.attend n = l ∨ ∃ e, l.errands[n]? = some e ∧ e.state = .waiting ∧
      l.attend n =
        { l with
          books := (l.books.present l.supply e.ticket).1
          errands := l.errands.modify n
            (·.serve l.clock (l.books.present l.supply e.ticket).2) } := by
  unfold attend
  split
  next x start ticket here => exact Or.inr ⟨_, here, rfl, rfl⟩
  next => exact Or.inl rfl

/-- Showing the ticket of an errand that waits. -/
theorem attend_of_waiting {n : Nat} {e : Errand} (here : l.errands[n]? = some e)
    (waiting : e.state = .waiting) :
    l.attend n =
      { l with
        books := (l.books.present l.supply e.ticket).1
        errands := l.errands.modify n
          (·.serve l.clock (l.books.present l.supply e.ticket).2) } := by
  obtain ⟨x, start, ticket, state⟩ := e
  cases waiting
  simp only [attend, here]

/-- Everything that a demand does. -/
theorem handle_demand (x : Demand) :
    l.handle (.demand x) =
      { l with
        books := ((l.books.demand x).1.present l.supply (l.books.demand x).2).1
        errands := l.errands ++
          [Errand.serve l.clock ((l.books.demand x).1.present l.supply (l.books.demand x).2).2
            { demand := x, start := l.clock, ticket := (l.books.demand x).2 }] } := by
  have here : (l.enter x).errands[l.errands.length]? =
      some { demand := x, start := l.clock, ticket := (l.books.demand x).2 } := by
    rw [enter, List.getElem?_concat_length]
  have last : l.errands.length < (l.enter x).errands.length := by
    rw [enter, List.length_append, List.length_singleton]
    exact Nat.lt_succ_self _
  simp only [handle, attend, here, List.modify_eq_take_cons_drop last]
  simp only [enter, List.take_left, List.getElem_concat_length, List.drop_of_length_le,
    List.length_append, List.length_singleton, Nat.le_refl]
  rfl

@[simp] theorem step_books (event : Event) : (l.step event).books = (l.handle event).books := rfl

@[simp] theorem step_supply (event : Event) : (l.step event).supply = (l.handle event).supply :=
  rfl

/-- Everything that an event does to the books: a file is replaced, or something is demanded and
the ticket is shown, or a ticket is shown that was there before.  If nothing happens to them, that
is as if one was shown whose outcome is there. -/
theorem books_step_cases (event : Event) :
    (∃ fileId, event = .switchFile fileId ∧
        (l.step event).books = l.books.switchFile fileId) ∨
      (∃ x, event = .demand x ∧ (l.step event).books =
        ((l.books.demand x).1.present l.supply (l.books.demand x).2).1) ∨
      (event.isSwitch = false ∧ (∀ x, event ≠ .demand x) ∧
        ∃ ticket, (l.step event).books = (l.books.present l.supply ticket).1) := by
  rw [step_books]
  cases event with
  | switchFile fileId => exact .inl ⟨fileId, rfl, rfl⟩
  | demand x =>
    refine .inr (.inl ⟨x, rfl, ?_⟩)
    rw [handle_demand]
  | answer call a => exact .inr (.inr ⟨rfl, by simp, .ready (.ok .stale), rfl⟩)
  | attend n =>
    refine .inr (.inr ⟨rfl, by simp, ?_⟩)
    rcases l.attend_cases n with same | ⟨e, -, -, eq⟩
    · rw [handle, same]
      exact ⟨.ready (.ok .stale), rfl⟩
    · rw [handle, eq]
      exact ⟨e.ticket, rfl⟩
  | giveUp n => exact .inr (.inr ⟨rfl, by simp, .ready (.ok .stale), rfl⟩)

/-- The books grow with every event. -/
theorem grows_step (event : Event) : l.books.Grows (l.step event).books := by
  rcases l.books_step_cases event with ⟨fileId, -, eq⟩ | ⟨x, -, eq⟩ | ⟨-, -, ticket, eq⟩
  · rw [eq]
    exact l.books.grows_switchFile fileId
  · rw [eq]
    exact (Books.grows_demand x).trans (Books.grows_present _ _ _)
  · rw [eq]
    exact l.books.grows_present _ _

end Step

/-- The books of a moment grow into those of every later one. -/
theorem grows_run (events : List Event) {i j : Nat} (le : i ≤ j) :
    (run (events.take i)).books.Grows (run (events.take j)).books := by
  induction le with
  | refl => exact .refl _
  | @step j le ih =>
    cases here : events[j]? with
    | none =>
      rw [List.take_add_one, here, Option.toList_none, List.append_nil]
      exact ih
    | some event =>
      rw [run_take_succ here]
      exact ih.trans (grows_step _ event)

end Ledger

/-! ## Errands -/

/-- What holds of an errand in every run that it is in. -/
structure Errand.Sound (events : List Ledger.Event) (e : Errand) : Prop where
  /-- It was made by its demand. -/
  made : events[e.start]? = some (.demand e.demand)
  issued : (Ledger.run (events.take (e.start + 1))).books.Issued e.demand e.ticket
  /-- If it was served, it was by an event of the run and with what the books had for the ticket. -/
  served : ∀ {time : Nat} {outcome : Resolution.Outcome}, e.state = .served time outcome →
    e.start ≤ time ∧ time < events.length ∧
      (Ledger.run (events.take (time + 1))).books.Yields e.ticket outcome
  /-- If the outcome was there at once, it was served at once. -/
  ready : ∀ {outcome : Resolution.Outcome}, e.ticket = .ready outcome →
    e.state = .served e.start outcome

namespace Errand

variable {events : List Ledger.Event} {e : Errand}

theorem Sound.start_lt (h : e.Sound events) : e.start < events.length :=
  (List.getElem?_eq_some_iff.mp h.made).1

/-- What was true of an errand stays true. -/
theorem Sound.snoc (h : e.Sound events) (event : Ledger.Event) : e.Sound (events ++ [event]) where
  made := by
    rw [List.getElem?_append_left h.start_lt]
    exact h.made
  issued := by
    rw [List.take_append_of_le_length h.start_lt]
    exact h.issued
  served state := by
    obtain ⟨le, lt, yields⟩ := h.served state
    refine ⟨le, ?_, ?_⟩
    · rw [List.length_append]
      omega
    · rw [List.take_append_of_le_length lt]
      exact yields
  ready := h.ready

/-- An errand that waits may be given up, -/
theorem Sound.giveUp (h : e.Sound events) : e.giveUp.Sound events := by
  unfold Errand.giveUp
  split
  next waiting =>
    exact {
      made := h.made
      issued := h.issued
      served := fun state => by cases state
      ready := fun ticket => by
        have state := h.ready ticket
        rw [waiting] at state
        cases state }
  next => exact h

/-- and it may be served with what the books have for its ticket. -/
theorem Sound.serve (made : events[e.start]? = some (.demand e.demand))
    (issued : (Ledger.run (events.take (e.start + 1))).books.Issued e.demand e.ticket)
    {time : Nat} (last : time + 1 = events.length) (le : e.start ≤ time)
    (waiting : e.state = .waiting) {given : Option Resolution.Outcome}
    (yields : ∀ outcome, given = some outcome → (Ledger.run events).books.Yields e.ticket outcome)
    (ready : ∀ outcome, e.ticket = .ready outcome → time = e.start ∧ given = some outcome) :
    (e.serve time given).Sound events := by
  cases given with
  | none =>
    exact {
      made := made
      issued := issued
      served := fun state => by
        rw [Errand.serve, waiting] at state
        cases state
      ready := fun ticket => by
        obtain ⟨-, given⟩ := ready _ ticket
        cases given }
  | some outcome =>
    exact {
      made := made
      issued := issued
      served := fun state => by
        cases state
        refine ⟨le, by omega, ?_⟩
        show (Ledger.run (events.take (time + 1))).books.Yields e.ticket outcome
        rw [last, List.take_length]
        exact yields outcome rfl
      ready := fun ticket => by
        obtain ⟨now, given⟩ := ready _ ticket
        cases given
        show State.served time outcome = .served e.start outcome
        rw [now] }

end Errand

/-! ## Ledgers -/

namespace Ledger

/-- What holds of the ledger after a sequence of events. -/
structure Sound (events : List Event) (l : Ledger) : Prop where
  clock : l.clock = events.length
  books : l.books.Sound
  settled : l.books.Settled
  epoch : l.books.broker.epoch = switches events
  /-- The answers at hand have come in, -/
  answers : ∀ x ∈ l.answers, Event.answer x.1 x.2 ∈ events
  /-- and so have those that were taken. -/
  receipts : ∀ r ∈ l.books.receipts, Event.answer r.1 r.2 ∈ events
  errands : ∀ e ∈ l.errands, e.Sound events

section

variable {events : List Event} {l : Ledger}

/-- An answer that is supplied has come in. -/
theorem Sound.supplied (h : l.Sound events) {call : Nat} {inquiry : Inquiry} {a : Answer}
    (given : l.supply call inquiry = some a) : Event.answer call a ∈ events := by
  obtain ⟨front, back, eq, -⟩ := List.lookup_eq_some_iff.mp given
  exact h.answers (call, a) (by rw [eq]; simp)

/-- The books of a moment at which an errand was there came later than its demand. -/
theorem Sound.grows (h : (run events).Sound events) {e : Errand}
    (mem : e ∈ (run events).errands) :
    (run (events.take (e.start + 1))).books.Grows (run events).books := by
  have grows := grows_run events (Nat.succ_le_of_lt (h.errands e mem).start_lt)
  rwa [List.take_length] at grows

end

theorem sound_nil : ({} : Ledger).Sound [] where
  clock := rfl
  books := Books.sound_empty
  settled := Books.settled_empty
  epoch := rfl
  answers := by simp
  receipts := by simp
  errands := by simp

/-- A member of a list of which one was changed is that one or was a member before. -/
theorem mem_modify_cases {α : Type} {l : List α} {n : Nat} {g : α → α} {a : α}
    (mem : a ∈ l.modify n g) : a ∈ l ∨ ∃ b, l[n]? = some b ∧ a = g b := by
  obtain ⟨m, here⟩ := List.getElem?_of_mem mem
  by_cases same : n = m
  · subst same
    rw [List.getElem?_modify_eq] at here
    obtain ⟨b, there, rfl⟩ := Option.map_eq_some_iff.mp here
    exact Or.inr ⟨b, there, rfl⟩
  · rw [List.getElem?_modify_ne _ _ same] at here
    exact Or.inl (List.mem_of_getElem? here)

/-! ## Every event keeps the ledger sound -/

section Snoc

variable {events : List Event} (h : (run events).Sound events)
include h

/-- What is left to be looked at when something happens. -/
theorem Sound.snoc {event : Event} (books : ((run events).handle event).books.Sound)
    (settled : ((run events).handle event).books.Settled)
    (epoch : ((run events).handle event).books.broker.epoch =
      (run events).books.broker.epoch + if event.isSwitch then 1 else 0)
    (answers : ∀ x ∈ ((run events).handle event).answers,
      x ∈ (run events).answers ∨ event = .answer x.1 x.2)
    (receipts : ∀ r ∈ ((run events).handle event).books.receipts,
      r ∈ (run events).books.receipts ∨ ∃ inquiry, (run events).supply r.1 inquiry = some r.2)
    (errands : ∀ e ∈ ((run events).handle event).errands,
      e ∈ (run events).errands ∨ e.Sound (events ++ [event])) :
    (run (events ++ [event])).Sound (events ++ [event]) := by
  rw [run_snoc]
  exact {
    clock := by
      rw [List.length_append, List.length_singleton, ← h.clock]
      rfl
    books := books
    settled := settled
    epoch := by
      rw [step_books, epoch, h.epoch, switches_snoc]
    answers := fun x mem => by
      rw [List.mem_append, List.mem_singleton]
      exact (answers x mem).imp (h.answers x) Eq.symm
    receipts := fun r mem => by
      refine List.mem_append_left _ ?_
      rcases receipts r mem with old | ⟨inquiry, given⟩
      · exact h.receipts r old
      · exact h.supplied given
    errands := fun e mem => by
      rcases errands e mem with old | new
      · exact (h.errands e old).snoc event
      · exact new }

theorem sound_switchFile (fileId : Option String) :
    (run (events ++ [.switchFile fileId])).Sound (events ++ [.switchFile fileId]) := by
  refine h.snoc (h.books.switchFile h.settled fileId) h.settled rfl ?_ ?_ ?_
  · exact fun x mem => Or.inl mem
  · exact fun r mem => Or.inl mem
  · exact fun e mem => Or.inl mem

theorem sound_answer (call : Nat) (a : Answer) :
    (run (events ++ [.answer call a])).Sound (events ++ [.answer call a]) := by
  refine h.snoc h.books h.settled rfl ?_ ?_ ?_
  · intro x mem
    rcases List.mem_cons.mp mem with rfl | old
    · exact Or.inr rfl
    · exact Or.inl old
  · exact fun r mem => Or.inl mem
  · exact fun e mem => Or.inl mem

theorem sound_giveUp (n : Nat) :
    (run (events ++ [.giveUp n])).Sound (events ++ [.giveUp n]) := by
  refine h.snoc h.books h.settled rfl ?_ ?_ ?_
  · exact fun x mem => Or.inl mem
  · exact fun r mem => Or.inl mem
  · intro e mem
    refine (mem_modify_cases mem).imp_right ?_
    rintro ⟨e, here, rfl⟩
    exact ((h.errands e (List.mem_of_getElem? here)).snoc _).giveUp

theorem sound_attend (n : Nat) :
    (run (events ++ [.attend n])).Sound (events ++ [.attend n]) := by
  rcases (run events).attend_cases n with same | ⟨e, here, waiting, eq⟩
  · have same : (run events).handle (.attend n) = run events := same
    refine h.snoc ?_ ?_ ?_ ?_ ?_ ?_ <;> rw [same]
    · exact h.books
    · exact h.settled
    · rfl
    · exact fun x mem => Or.inl mem
    · exact fun r mem => Or.inl mem
    · exact fun e mem => Or.inl mem
  · have eq : (run events).handle (.attend n) = _ := eq
    have owns := h.errands e (List.mem_of_getElem? here)
    refine h.snoc ?_ ?_ ?_ ?_ ?_ ?_ <;> rw [eq]
    · exact h.books.present _ (owns.issued.detail (h.grows (List.mem_of_getElem? here)))
    · exact h.settled.present _ _
    · exact Books.epoch_present _ _ _
    · exact fun x mem => Or.inl mem
    · exact fun r mem => (Books.mem_receipts_present _ h.books mem).imp_right
        fun ⟨s, _, given⟩ => ⟨s.inquiry, given⟩
    · intro e' mem
      refine (mem_modify_cases mem).imp_right ?_
      rintro ⟨e'', there, rfl⟩
      rw [here, Option.some.injEq] at there
      subst there
      have later := owns.snoc (.attend n)
      refine .serve later.made later.issued ?_ ?_ waiting ?_ ?_
      · rw [h.clock, List.length_append, List.length_singleton]
      · rw [h.clock]
        exact Nat.le_of_lt owns.start_lt
      · intro outcome given
        rw [run_snoc, step_books, eq]
        exact Books.yields_present _ _ given
      · intro outcome ticket
        have state := owns.ready ticket
        rw [waiting] at state
        cases state

theorem sound_demand (x : Demand) :
    (run (events ++ [.demand x])).Sound (events ++ [.demand x]) := by
  have issued := h.books.issued x
  have eq := (run events).handle_demand x
  refine h.snoc ?_ ?_ ?_ ?_ ?_ ?_ <;> rw [eq]
  · exact (h.books.demand x).present _ (issued.detail (.refl _))
  · exact h.settled.demand x _
  · exact (Books.epoch_present _ _ _).trans (Books.epoch_demand x)
  · exact fun y mem => Or.inl mem
  · intro r mem
    rw [← Books.receipts_demand (k := (run events).books) x]
    exact (Books.mem_receipts_present _ (h.books.demand x) mem).imp_right
      fun ⟨s, _, given⟩ => ⟨s.inquiry, given⟩
  · intro e mem
    rw [List.mem_append, List.mem_singleton] at mem
    refine mem.imp_right ?_
    rintro rfl
    refine .serve ?_ ?_ ?_ (Nat.le_refl _) rfl ?_ ?_
    · rw [h.clock, List.getElem?_concat_length]
    · rw [h.clock, List.take_of_length_le (by simp), run_snoc, step_books, eq]
      exact issued.present _
    · rw [h.clock, List.length_append, List.length_singleton]
    · intro outcome given
      rw [run_snoc, step_books, eq]
      exact Books.yields_present _ _ given
    · intro outcome ticket
      refine ⟨rfl, ?_⟩
      rw [show (Books.demand x (run events).books).2 = .ready outcome from ticket]
      rfl

end Snoc

/-- **The ledger of every run is sound.** -/
theorem sound_run (events : List Event) : (run events).Sound events := by
  induction events using List.reverseRecOn with
  | nil => exact sound_nil
  | append_singleton events event ih =>
    cases event with
    | switchFile fileId => exact sound_switchFile ih fileId
    | demand x => exact sound_demand ih x
    | answer call a => exact sound_answer ih call a
    | attend n => exact sound_attend ih n
    | giveUp n => exact sound_giveUp ih n

/-! ## Every demand has its errand -/

/-- Whether two errands are of one demand. -/
def SameDemand (e e' : Errand) : Prop :=
  e'.start = e.start ∧ e'.demand = e.demand

/-- An errand keeps its number, its demand and its ticket. -/
theorem errand_step {l : Ledger} {n : Nat} {e : Errand} (here : l.errands[n]? = some e)
    (event : Event) :
    ∃ e', (l.step event).errands[n]? = some e' ∧ SameDemand e e' ∧ e'.ticket = e.ticket := by
  have modified : ∀ {m : Nat} {g : Errand → Errand},
      (∀ e, SameDemand e (g e) ∧ (g e).ticket = e.ticket) →
        ∃ e', (l.errands.modify m g)[n]? = some e' ∧ SameDemand e e' ∧ e'.ticket = e.ticket := by
    intro m g same
    by_cases own : m = n
    · subst own
      refine ⟨g e, ?_, same e⟩
      rw [List.getElem?_modify_eq, here]
      rfl
    · exact ⟨e, (List.getElem?_modify_ne _ _ own).trans here, ⟨rfl, rfl⟩, rfl⟩
  show ∃ e', (l.handle event).errands[n]? = _ ∧ _
  cases event with
  | switchFile fileId => exact ⟨e, here, ⟨rfl, rfl⟩, rfl⟩
  | demand x =>
    rw [handle_demand]
    refine ⟨e, ?_, ⟨rfl, rfl⟩, rfl⟩
    exact (List.getElem?_append_left (List.getElem?_eq_some_iff.mp here).1).trans here
  | answer call a => exact ⟨e, here, ⟨rfl, rfl⟩, rfl⟩
  | attend m =>
    rcases l.attend_cases m with same | ⟨_, -, -, eq⟩
    · rw [handle, same]
      exact ⟨e, here, ⟨rfl, rfl⟩, rfl⟩
    · rw [handle, eq]
      refine modified fun e => ?_
      unfold Errand.serve
      split <;> exact ⟨⟨rfl, rfl⟩, rfl⟩
  | giveUp m =>
    refine modified fun e => ?_
    unfold Errand.giveUp
    split <;> exact ⟨⟨rfl, rfl⟩, rfl⟩

/-- What an errand is about at one moment it is about at every later one. -/
theorem errand_run {events : List Event} {i j : Nat} (le : i ≤ j) {n : Nat} {e : Errand}
    (here : (run (events.take i)).errands[n]? = some e) :
    ∃ e', (run (events.take j)).errands[n]? = some e' ∧ SameDemand e e' ∧
      e'.ticket = e.ticket := by
  induction le with
  | refl => exact ⟨e, here, ⟨rfl, rfl⟩, rfl⟩
  | @step j le ih =>
    obtain ⟨e', there, ⟨start, demand⟩, ticket⟩ := ih
    cases next : events[j]? with
    | none =>
      rw [List.take_add_one, next, Option.toList_none, List.append_nil]
      exact ⟨e', there, ⟨start, demand⟩, ticket⟩
    | some event =>
      rw [run_take_succ next]
      obtain ⟨e'', there', ⟨start', demand'⟩, ticket'⟩ := errand_step there event
      exact ⟨e'', there', ⟨start'.trans start, demand'.trans demand⟩, ticket'.trans ticket⟩

/-- What is said about all errands is said about all demands. -/
theorem exists_errand (events : List Event) {i : Nat} {x : Demand}
    (here : events[i]? = some (.demand x)) :
    ∃ e ∈ (run events).errands, e.start = i ∧ e.demand = x := by
  induction events using List.reverseRecOn with
  | nil => cases here
  | append_singleton events event ih =>
    rw [run_snoc]
    by_cases old : i < events.length
    · rw [List.getElem?_append_left old] at here
      obtain ⟨e, mem, start, demand⟩ := ih here
      obtain ⟨n, there⟩ := List.getElem?_of_mem mem
      obtain ⟨e', there', ⟨start', demand'⟩, -⟩ := errand_step there event
      exact ⟨e', List.mem_of_getElem? there', start'.trans start, demand'.trans demand⟩
    · obtain ⟨lt, -⟩ := List.getElem?_eq_some_iff.mp here
      rw [List.length_append, List.length_singleton] at lt
      obtain rfl : i = events.length := by omega
      rw [List.getElem?_concat_length, Option.some.injEq] at here
      subst here
      show ∃ e ∈ ((run events).handle (.demand x)).errands, _
      rw [handle_demand]
      refine ⟨_, List.mem_append_right _ (List.mem_singleton.mpr rfl), ?_⟩
      rw [← (sound_run events).clock]
      unfold Errand.serve
      split <;> exact ⟨rfl, rfl⟩

/-! ## Outcomes of fetches -/

/-- The epoch of an errand is over once a file was replaced. -/
theorem switched_iff_epoch (events : List Event) {start time : Nat} (le : start ≤ time) :
    Switched events start time ↔
      (run (events.take (start + 1))).books.broker.epoch ≠
        (run (events.take (time + 1))).books.broker.epoch := by
  rw [switched_iff le, (sound_run _).epoch, (sound_run _).epoch]

/-- What an errand with the ticket of a fetch is served with. -/
theorem served_of_fetch {events : List Event} {e : Errand} (h : e.Sound events) {n epoch : Nat}
    (ticket : e.ticket = .fetch n epoch) {time : Nat} {outcome : Resolution.Outcome}
    (served : e.state = .served time outcome) :
    ∃ o, (run (events.take (time + 1))).books.broker.outcome? n = some o ∧
      (¬Switched events e.start time → outcome = o) ∧
      (Switched events e.start time → outcome = .ok .stale) := by
  obtain ⟨le, -, yields⟩ := h.served served
  have issued := h.issued
  rw [ticket] at issued yields
  have made := issued.epoch_eq
  cases yields with
  | @fetch _ _ o ended =>
    refine ⟨o, ended, ?_, ?_⟩
    · intro still
      rw [switched_iff_epoch events le, not_not, ← made] at still
      rw [Broker.current, if_pos still.symm]
    · intro switched
      rw [switched_iff_epoch events le, ← made] at switched
      rw [Broker.current, if_neg switched.symm]

end Ledger
end CodeGloss
