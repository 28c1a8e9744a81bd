import CodeGloss.Proofs.Broker.LedgerSound

/-!
# The ledger is a desk with a history

Whatever a ledger does, the desk does.  The desk of a ledger has the broker of its books, the
answers at hand, and those who wait, each called by the number of the errand (`Ledger.desk`).  An
event of the ledger is an event of the desk, or two if it is a demand (`Event.atDesk`), and those
who leave the desk are those who are served.

So what is proved about the runs of ledgers is true of the desk.  The ledger only remembers more.
-/

namespace CodeGloss

open Service (Answer Inquiry)

/-! ## Those who wait -/

namespace Broker

variable {τ ω : Type}

/-- Those who are served together may be served one group after the other. -/
theorem serve_append (present : Broker → τ → Broker × (τ ⊕ ω)) (b : Broker) (front back : List τ) :
    serve present b (front ++ back) =
      ((serve present (serve present b front).1 back).1,
        (serve present b front).2.1 ++ (serve present (serve present b front).1 back).2.1,
        (serve present b front).2.2 ++ (serve present (serve present b front).1 back).2.2) := by
  induction front generalizing b with
  | nil => rfl
  | cons w rest ih =>
    simp only [List.cons_append, serve]
    cases present b w with
    | mk b' served => cases served <;> simp only [ih, List.cons_append]

/-- Who is not chosen goes on waiting. -/
theorem serve_of_not_chosen {supply : Supply} {chosen : String → Bool} (b : Broker)
    {ws : List Waiter} (apart : ∀ w ∈ ws, chosen w.tag = false) :
    serve (Desk.presentOne supply chosen) b ws = (b, ws, []) := by
  induction ws with
  | nil => rfl
  | cons w rest ih =>
    have skipped := apart w List.mem_cons_self
    simp only [serve, Desk.presentOne, skipped, Bool.false_eq_true, if_false,
      ih fun w mem => apart w (List.mem_cons_of_mem _ mem)]

end Broker

namespace Ledger

/-- What an errand is called at the desk: as many strokes as its number says. -/
def tag (n : Nat) : String :=
  String.ofList (List.replicate n '|')

theorem tag_inj {n m : Nat} (same : tag n = tag m) : n = m := by
  have strokes := congrArg List.length (String.ofList_injective same)
  simpa using strokes

/-- The place of an errand at the desk, if it waits. -/
def place (n : Nat) (e : Errand) : List Waiter :=
  match e.state with
  | .waiting => [⟨tag n, e.ticket⟩]
  | _ => []

/-- Those who wait, when the first of the errands has the number `n`. -/
def waiting (n : Nat) : List Errand → List Waiter
  | [] => []
  | e :: rest => place n e ++ waiting (n + 1) rest

theorem waiting_append (n : Nat) (front back : List Errand) :
    waiting n (front ++ back) = waiting n front ++ waiting (n + front.length) back := by
  induction front generalizing n with
  | nil => rfl
  | cons e rest ih =>
    simp only [List.cons_append, waiting, ih, List.append_assoc, List.length_cons]
    rw [Nat.add_right_comm, Nat.add_assoc]

theorem tag_of_mem_waiting {n : Nat} {es : List Errand} {w : Waiter} (mem : w ∈ waiting n es) :
    ∃ m, n ≤ m ∧ m < n + es.length ∧ w.tag = tag m := by
  induction es generalizing n with
  | nil => cases mem
  | cons e rest ih =>
    rcases List.mem_append.mp mem with here | later
    · refine ⟨n, Nat.le_refl n, by simp, ?_⟩
      unfold place at here
      split at here
      · rw [List.mem_singleton.mp here]
      · cases here
    · obtain ⟨m, le, lt, eq⟩ := ih later
      exact ⟨m, by omega, by rw [List.length_cons]; omega, eq⟩

/-- Nobody else is called like the errand of a number. -/
theorem not_called {n m : Nat} {es : List Errand} (apart : m < n ∨ n + es.length ≤ m) :
    ∀ w ∈ waiting n es, (w.tag == tag m) = false := by
  intro w mem
  obtain ⟨i, le, lt, eq⟩ := tag_of_mem_waiting mem
  rw [eq, beq_eq_false_iff_ne]
  intro same
  have := tag_inj same
  omega

/-! ## The desk of a ledger -/

/-- The desk of a ledger. -/
def desk (l : Ledger) : Desk where
  broker := l.books.broker
  waiting := waiting 0 l.errands
  answers := l.answers

/-- The events of the desk that make up an event of a ledger with `n` errands. -/
def Event.atDesk (n : Nat) : Event → List Desk.Event
  | .switchFile fileId => [.switchFile fileId]
  | .demand (.gloss d fileId) => [.resolve (tag n) d fileId, .present (tag n)]
  | .demand (.detail d fileId current) => [.sayMore (tag n) d fileId current, .present (tag n)]
  | .answer call a => [.answer call a]
  | .attend n => [.present (tag n)]
  | .giveUp n => [.drop (tag n)]

/-- How many demands an event makes. -/
def Event.demands : Event → Nat
  | demand _ => 1
  | _ => 0

/-- The events of the desk that make up a run of a ledger which has `n` errands. -/
def atDesk (n : Nat) : List Event → List Desk.Event
  | [] => []
  | event :: rest => event.atDesk n ++ atDesk (n + event.demands) rest

/-- What is given out when the ticket of an errand is shown, if it waits. -/
def given (n : Nat) (l : Ledger) : List (String × Resolution.Outcome) :=
  match l.errands[n]? with
  | some ⟨_, _, ticket, .waiting⟩ =>
    ((l.books.present l.supply ticket).2.map (tag n, ·)).toList
  | _ => []

variable (l : Ledger)

/-- The errands before one, itself, and those after it. -/
theorem split_errands {n : Nat} {e : Errand} (here : l.errands[n]? = some e) :
    ∃ front back, l.errands = front ++ e :: back ∧ front.length = n ∧
      ∀ g : Errand → Errand, l.errands.modify n g = front ++ g e :: back := by
  obtain ⟨lt, eq⟩ := List.getElem?_eq_some_iff.mp here
  refine ⟨l.errands.take n, l.errands.drop (n + 1), ?_, ?_, fun g => ?_⟩
  · rw [← eq, List.getElem_cons_drop, List.take_append_drop]
  · rw [List.length_take]
    omega
  · rw [List.modify_eq_take_cons_drop lt, eq]

theorem waiting_split (front back : List Errand) (e : Errand) :
    waiting 0 (front ++ e :: back) =
      waiting 0 front ++ (place front.length e ++ waiting (front.length + 1) back) := by
  rw [waiting_append, Nat.zero_add, waiting]

/-- The one whose ticket is shown is served, and nobody else. -/
theorem serve_waiting (supply : Supply) (b : Broker) (front back : List Errand) (x : Demand)
    (start time : Nat) (ticket : Ticket) :
    Broker.serve (Desk.presentOne supply (· == tag front.length)) b
        (waiting 0 (front ++ ⟨x, start, ticket, .waiting⟩ :: back)) =
      ((b.present supply ticket).1,
        waiting 0 (front ++
          Errand.serve time (b.present supply ticket).2 ⟨x, start, ticket, .waiting⟩ :: back),
        ((b.present supply ticket).2.map (tag front.length, ·)).toList) := by
  have before : Broker.serve (Desk.presentOne supply (· == tag front.length)) b (waiting 0 front) =
      (b, waiting 0 front, []) :=
    Broker.serve_of_not_chosen b (not_called (Or.inr (by omega)))
  have behind : ∀ b, Broker.serve (Desk.presentOne supply (· == tag front.length)) b
      (waiting (front.length + 1) back) = (b, waiting (front.length + 1) back, []) := fun b =>
    Broker.serve_of_not_chosen b (not_called (Or.inl (by omega)))
  simp only [waiting_split, Broker.serve_append, before, behind, place, Broker.serve,
    Desk.presentOne, beq_self_eq_true, if_true]
  rcases b.present supply ticket with ⟨b', _ | outcome⟩ <;> rfl

/-- Nobody is served who does not wait. -/
theorem serve_nobody (supply : Supply) (b : Broker) {n : Nat}
    (gone : ∀ e, l.errands[n]? = some e → e.state ≠ .waiting) :
    Broker.serve (Desk.presentOne supply (· == tag n)) b (waiting 0 l.errands) =
      (b, waiting 0 l.errands, []) := by
  refine Broker.serve_of_not_chosen b fun w mem => ?_
  cases here : l.errands[n]? with
  | none =>
    rw [List.getElem?_eq_none_iff] at here
    exact not_called (Or.inr (by omega)) w mem
  | some e =>
    obtain ⟨front, back, split, rfl, -⟩ := l.split_errands here
    rw [split, waiting_split] at mem
    rcases List.mem_append.mp mem with before | later
    · exact not_called (Or.inr (by omega)) w before
    · rcases List.mem_append.mp later with self | behind
      · unfold place at self
        split at self
        next state => exact absurd state (gone e here)
        next => cases self
      · exact not_called (Or.inl (by omega)) w behind

theorem present_of_serve {n : Nat} {b : Broker} {ws : List Waiter}
    {done : List (String × Resolution.Outcome)}
    (served : Broker.serve (Desk.presentOne l.supply (· == tag n)) l.books.broker
      (waiting 0 l.errands) = (b, ws, done)) :
    l.desk.step (.present (tag n)) = (⟨b, ws, l.answers⟩, done) := by
  have served : Broker.serve (Desk.presentOne l.desk.supply (· == tag n)) l.desk.broker
      l.desk.waiting = (b, ws, done) := served
  simp only [Desk.step, Desk.present, served]
  rfl

/-- Showing a ticket is the same for the ledger and for its desk. -/
theorem desk_attend (n : Nat) :
    l.desk.step (.present (tag n)) = ((l.attend n).desk, l.given n) := by
  by_cases waits : ∃ e, l.errands[n]? = some e ∧ e.state = .waiting
  · obtain ⟨⟨x, start, ticket, state⟩, here, rfl⟩ := waits
    obtain ⟨front, back, split, rfl, modify⟩ := l.split_errands here
    have shown := serve_waiting l.supply l.books.broker front back x start l.clock ticket
    rw [← split] at shown
    obtain ⟨broker, outcome⟩ := l.books.broker_present l.supply ticket
    rw [l.present_of_serve shown]
    simp only [attend, given, here, modify, outcome, desk, broker]
  · have gone : ∀ e, l.errands[n]? = some e → e.state ≠ .waiting := fun e here state =>
      waits ⟨e, here, state⟩
    have same : l.attend n = l := by
      rcases l.attend_cases n with same | ⟨e, here, state, -⟩
      · exact same
      · exact absurd state (gone e here)
    have nothing : l.given n = [] := by
      unfold given
      split
      next x start ticket here => exact absurd rfl (gone _ here)
      next => rfl
    rw [l.present_of_serve (l.serve_nobody l.supply l.books.broker gone), same, nothing]
    rfl

/-- Whoever gives up leaves the desk. -/
theorem desk_giveUp (n : Nat) :
    l.desk.step (.drop (tag n)) = ((l.step (.giveUp n)).desk, []) := by
  have others : ∀ {m : Nat} {es : List Errand}, n < m ∨ m + es.length ≤ n →
      (waiting m es).filter (·.tag != tag n) = waiting m es := by
    intro m es apart
    rw [List.filter_eq_self]
    intro w mem
    rw [bne, not_called apart w mem]
    rfl
  suffices left : (waiting 0 l.errands).filter (·.tag != tag n) =
      waiting 0 (l.errands.modify n Errand.giveUp) by
    simp only [Desk.step, desk, left]
    rfl
  cases here : l.errands[n]? with
  | none =>
    rw [List.getElem?_eq_none_iff] at here
    rw [List.modify_eq_self here, others (Or.inr (by omega))]
  | some e =>
    obtain ⟨front, back, split, rfl, modify⟩ := l.split_errands here
    have alone : (place front.length e).filter (·.tag != tag front.length) =
        place front.length e.giveUp := by
      obtain ⟨x, start, ticket, state⟩ := e
      cases state <;> simp [place, Errand.giveUp]
    rw [modify, split, waiting_split, waiting_split, List.filter_append, List.filter_append,
      others (Or.inr (by omega)), alone, others (Or.inl (by omega))]

/-- Whoever makes a demand is the last one at the desk. -/
theorem desk_enter (x : Demand) (demanded : Broker × Ticket)
    (broker : demanded.1 = (l.books.demand x).1.broker)
    (ticket : demanded.2 = (l.books.demand x).2) :
    l.desk.enter (tag l.errands.length) demanded = (l.enter x).desk := by
  unfold Desk.enter desk enter
  simp only [waiting_append, Nat.zero_add, waiting, place, broker, ticket, List.append_nil]

/-- **The desk of a ledger does what the ledger does.** -/
theorem desk_step (event : Event) :
    (l.step event).desk =
      (event.atDesk l.errands.length).foldl (fun k e => (k.step e).1) l.desk := by
  cases event with
  | switchFile fileId => rfl
  | demand x =>
    have shown := (l.enter x).desk_attend l.errands.length
    cases x with
    | gloss d fileId =>
      simp only [Event.atDesk, List.foldl_cons, List.foldl_nil]
      rw [show (l.desk.step (.resolve (tag l.errands.length) d fileId)).1 = _ from
        l.desk_enter (.gloss d fileId) _ rfl rfl, shown]
      rfl
    | detail d fileId current =>
      simp only [Event.atDesk, List.foldl_cons, List.foldl_nil]
      rw [show (l.desk.step (.sayMore (tag l.errands.length) d fileId current)).1 = _ from
        l.desk_enter (.detail d fileId current) _ rfl rfl, shown]
      rfl
  | answer call a => rfl
  | attend n =>
    simp only [Event.atDesk, List.foldl_cons, List.foldl_nil]
    rw [desk_attend]
    rfl
  | giveUp n =>
    simp only [Event.atDesk, List.foldl_cons, List.foldl_nil]
    rw [desk_giveUp]

theorem length_errands_step (event : Event) :
    (l.step event).errands.length = l.errands.length + event.demands := by
  show (l.handle event).errands.length = _
  cases event with
  | switchFile fileId => rfl
  | demand x =>
    rw [handle_demand, List.length_append]
    rfl
  | answer call a => rfl
  | attend n =>
    rcases l.attend_cases n with same | ⟨e, -, -, eq⟩
    · rw [handle, same]
      rfl
    · rw [handle, eq]
      exact List.length_modify ..
  | giveUp n => exact List.length_modify ..

/-- **Every run of a ledger is one of a desk.** -/
theorem desk_run (events : List Event) :
    (run events).desk = (atDesk 0 events).foldl (fun k e => (k.step e).1) {} := by
  suffices along : ∀ l : Ledger, (events.foldl step l).desk =
      (atDesk l.errands.length events).foldl (fun k e => (k.step e).1) l.desk from along {}
  induction events with
  | nil => exact fun l => rfl
  | cons event rest ih =>
    intro l
    rw [List.foldl_cons, ih, atDesk, List.foldl_append, desk_step, length_errands_step]

end Ledger
end CodeGloss
