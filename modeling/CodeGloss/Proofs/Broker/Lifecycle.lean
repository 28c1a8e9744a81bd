import CodeGloss.Proofs.Broker.Supplied

/-!
# What becomes of a definition

For a definition the broker has nothing, or a fetch that is under way, or a text.  Which of them it
is follows from two tables, and both may have an entry for its key: a list that another fetch had
asked for may bring the text while the fetch for the key still waits for its own.

Whatever happens, what the broker has changes in few ways.  A fetch comes into being by a demand, a
text by an answer of the epoch.  A text is lost when the file is replaced and at no other time, and
a fetch is lost without a text when it comes to a failure or the file is replaced
(`Ledger.state_changes`).  A failure takes away the fetch and leaves what its list has brought; the
next demand begins anew.  A fetch of an earlier epoch may come to a failure as well, and that must
not touch the fetch that has been opened for the same key since.

An event that replaces no file shows at most one ticket.  The books right before that
(`Ledger.Prepares`) differ from those before the event by the fetch at most that a demand has
opened, so that everything else is what the poll does.
-/

namespace CodeGloss

open Service (Answer Inquiry)

namespace Broker

variable {b : Broker} {d : Definition}

theorem state_eq_resolved_iff :
    b.state d = .resolved ↔ (Table.get? b.entries d.glossKey).isSome := by
  unfold state get?
  split
  next known => exact iff_of_true rfl known
  next unknown =>
    refine iff_of_false ?_ unknown
    split <;> exact State.noConfusion

theorem state_eq_resolving_iff : b.state d = .resolving ↔
    Table.get? b.entries d.glossKey = none ∧ (Table.get? b.inFlight d.glossKey).isSome := by
  unfold state get?
  cases Table.get? b.entries d.glossKey with
  | some text => simp
  | none => cases Table.get? b.inFlight d.glossKey <;> simp

theorem state_eq_absent_iff : b.state d = .absent ↔
    Table.get? b.entries d.glossKey = none ∧ Table.get? b.inFlight d.glossKey = none := by
  unfold state get?
  cases Table.get? b.entries d.glossKey with
  | some text => simp
  | none => cases Table.get? b.inFlight d.glossKey <;> simp

end Broker

namespace Books

/-- Whether the fetch `n` comes to a failure from one moment to another. -/
def Fails (n : Nat) (k k' : Books) : Prop :=
  k.broker.outcome? n = none ∧ ∃ failure, k'.broker.outcome? n = some (.error failure)

/-- A fetch that comes to a failure has moved. -/
theorem Fails.moved {n : Nat} {k k' : Books} (fails : Fails n k k') :
    k'.broker.fetches[n]? ≠ k.broker.fetches[n]? := by
  intro same
  obtain ⟨none_, failure, failed⟩ := fails
  rw [Broker.outcome?, same] at failed
  rw [Broker.outcome?, failed] at none_
  cases none_

end Books

namespace Ledger

/-! ## Between a demand and its ticket -/

/-- What holds of the books right before a ticket is shown by an event, and of the ticket. -/
structure Prepares (l : Ledger) (event : Event) (k : Books) (ticket : Ticket) : Prop where
  after : (l.step event).books = (k.present l.supply ticket).1
  sound : k.Sound
  orderly : k.Orderly
  grows : l.books.Grows k
  epoch : k.broker.epoch = l.books.broker.epoch
  /-- Nothing has become known yet.  Either no fetch was opened, or one was by the event, and the
  ticket is for it. -/
  tables : k.broker.entries = l.books.broker.entries ∧
    ((k.broker.inFlight = l.books.broker.inFlight ∧
        k.broker.fetches = l.books.broker.fetches) ∨
      ∃ d fileId, event = .demand (.gloss d fileId) ∧
        k.broker = (l.books.broker.load fileId).openFetch d fileId ∧
        ticket = .fetch l.books.broker.fetches.length l.books.broker.epoch)

/-- An event that replaces no file shows a ticket. -/
theorem exists_prepares (events : List Event) {event : Event} (stays : event.isSwitch = false) :
    ∃ k ticket, Prepares (run events) event k ticket := by
  have h := (sound_run events).books
  have orderly := orderly_run events
  rcases (run events).books_step_cases event with ⟨fileId, rfl, -⟩ | ⟨x, rfl, eq⟩ |
    ⟨-, -, ticket, eq⟩
  · cases stays
  · refine ⟨_, _, eq, h.demand x, orderly.demand x, Books.grows_demand x, Books.epoch_demand x,
      ?_⟩
    rcases (run events).books.demand_cases x with ⟨entries, in_flight, fetches⟩ |
      ⟨d, fileId, rfl, -, -, -, opens⟩
    · exact ⟨entries, Or.inl ⟨in_flight, fetches⟩⟩
    · rw [opens]
      exact ⟨rfl, Or.inr ⟨d, fileId, rfl, rfl, rfl⟩⟩
  · exact ⟨_, ticket, eq, h, orderly, .refl _, rfl, rfl, Or.inl ⟨rfl, rfl⟩⟩

section Prepares

variable {events : List Event} {event : Event} {k : Books} {ticket : Ticket}
  (p : Prepares (run events) event k ticket)
include p

/-- A fetch stands where it stood when the ticket is shown, or the ticket is for it. -/
theorem Prepares.fetch_or_ticket (n : Nat) :
    k.broker.fetches[n]? = (run events).books.broker.fetches[n]? ∨
      ∃ epoch, ticket = .fetch n epoch := by
  rcases p.tables.2 with ⟨-, fetches⟩ | ⟨d, fileId, -, broker, for_⟩
  · exact Or.inl (by rw [fetches])
  · by_cases new : (run events).books.broker.fetches.length = n
    · exact Or.inr ⟨_, new ▸ for_⟩
    · left
      rw [broker]
      simp only [Broker.openFetch, Broker.load]
      by_cases lt : n < (run events).books.broker.fetches.length
      · exact List.getElem?_append_left lt
      · rw [List.getElem?_eq_none (by rw [List.length_append, List.length_singleton]; omega),
          List.getElem?_eq_none (by omega)]

/-- A fetch that moves by an event is the one whose ticket is shown. -/
theorem Prepares.ticket_of_moved {n : Nat}
    (moved : ((run events).step event).books.broker.fetches[n]? ≠
      (run events).books.broker.fetches[n]?) : ∃ epoch, ticket = .fetch n epoch := by
  rw [p.after] at moved
  rcases p.fetch_or_ticket n with same | for_
  · rw [← same] at moved
    cases ticket with
    | ready outcome => exact absurd rfl moved
    | call m epoch => exact absurd rfl moved
    | fetch m epoch =>
      by_cases own : m = n
      · exact ⟨epoch, by rw [own]⟩
      · exact absurd (Books.fetch_poll_ne _ own) moved
  · exact for_

/-- What is under way after an event was before the ticket was shown. -/
theorem Prepares.of_in_flight {key : String} {m : Nat}
    (going : Table.get? ((run events).step event).books.broker.inFlight key = some m) :
    Table.get? k.broker.inFlight key = some m := by
  rw [p.after] at going
  cases ticket with
  | ready outcome => exact going
  | fetch n epoch => exact Books.in_flight_of_poll _ going
  | call n epoch => exact going

theorem Prepares.epoch_eq :
    ((run events).step event).books.broker.epoch = (run events).books.broker.epoch := by
  rw [p.after, Books.epoch_present, p.epoch]

end Prepares

/-! ## Changes of what the broker has -/

section Changes

variable {events : List Event} {event : Event} {d : Definition}

/-- When a file is replaced nothing is left. -/
theorem state_of_switch (replaced : event.isSwitch = true) :
    ((run events).step event).books.broker.state d = .absent := by
  cases event with
  | switchFile fileId => exact Broker.state_eq_absent_iff.mpr ⟨rfl, rfl⟩
  | _ => cases replaced

theorem stays_of_state (left : ((run events).step event).books.broker.state d ≠ .absent) :
    event.isSwitch = false :=
  Bool.eq_false_iff.mpr fun replaced => left (state_of_switch replaced)

/-- Where there was nothing a fetch is under way only if a demand for the key has opened one. -/
theorem opened_of_resolving (absent : (run events).books.broker.state d = .absent)
    (resolving : ((run events).step event).books.broker.state d = .resolving) :
    ∃ d' fileId f, event = .demand (.gloss d' fileId) ∧ d'.glossKey = d.glossKey ∧
      ((run events).step event).books.broker.fetches[
        (run events).books.broker.fetches.length]? = some f ∧
      f.key = d.glossKey ∧ f.fileId = fileId ∧
      Table.get? ((run events).step event).books.broker.inFlight d.glossKey =
        some (run events).books.broker.fetches.length := by
  have stays : event.isSwitch = false :=
    stays_of_state (by rw [resolving]; exact Broker.State.noConfusion)
  obtain ⟨k, ticket, p⟩ := exists_prepares events stays
  obtain ⟨-, free⟩ := Broker.state_eq_absent_iff.mp absent
  obtain ⟨-, going⟩ := Broker.state_eq_resolving_iff.mp resolving
  obtain ⟨m, going⟩ := Option.isSome_iff_exists.mp going
  have before := p.of_in_flight going
  rcases p.tables.2 with ⟨in_flight, -⟩ | ⟨d', fileId, demanded, broker, -⟩
  · rw [in_flight, free] at before
    cases before
  · rw [broker] at before
    simp only [Broker.openFetch, Broker.load, Table.get?_insert] at before
    by_cases own : d.glossKey = d'.glossKey
    · rw [if_pos own, Option.some.injEq] at before
      subst before
      have there : k.broker.fetches[(run events).books.broker.fetches.length]? = some
          { key := d'.glossKey, code := d'.text, fileId,
            epoch := (run events).books.broker.epoch } := by
        rw [broker]
        exact List.getElem?_concat_length
      obtain ⟨f, there', key, file, -⟩ := (k.grows_present (run events).supply ticket).fetch there
      rw [← p.after] at there'
      exact ⟨d', fileId, f, demanded, own.symm, there', key.trans own.symm, file, going⟩
    · rw [if_neg own, free] at before
      cases before

/-- A text becomes known only if an answer of the epoch tells it. -/
theorem told_of_resolved (unresolved : (run events).books.broker.state d ≠ .resolved)
    (resolved : ((run events).step event).books.broker.state d = .resolved) :
    event.isSwitch = false ∧
      ∃ receipt ∈ ((run events).step event).books.receipts.drop (run events).books.receipts.length,
        ∃ text, Books.Counts ((run events).step event).books.slips
          ((run events).step event).books.broker.epoch receipt d.glossKey text := by
  have stays : event.isSwitch = false :=
    stays_of_state (by rw [resolved]; exact Broker.State.noConfusion)
  refine ⟨stays, ?_⟩
  obtain ⟨k, ticket, p⟩ := exists_prepares events stays
  have h := (sound_run events).books
  have later := (sound_run (events ++ [event])).books
  rw [run_snoc] at later
  have grows := grows_step (run events) event
  obtain ⟨more, slips⟩ := grows.slips
  obtain ⟨new, receipts⟩ := grows.receipts
  obtain ⟨text, known⟩ := Option.isSome_iff_exists.mp (Broker.state_eq_resolved_iff.mp resolved)
  have before : (run events).books.receipts.foldl
      (Books.credit ((run events).step event).books.slips (run events).books.broker.epoch) [] =
        (run events).books.broker.entries := by
    rw [← slips, Books.replay_append h.receipt_lt, h.entries_eq]
    rfl
  rw [later.entries_eq, Books.replay, ← receipts, List.foldl_append, p.epoch_eq, before] at known
  rcases Books.known_or_counts_of_replay known with old | ⟨receipt, mem, counts⟩
  · rw [Ne, Broker.state_eq_resolved_iff, old] at unresolved
    exact absurd rfl unresolved
  · refine ⟨receipt, ?_, text, ?_⟩
    · rw [← receipts, List.drop_left]
      exact mem
    · rw [p.epoch_eq]
      exact counts

/-- Nothing is left of a fetch that was under way only if it has come to a failure or the file was
replaced. -/
theorem failed_of_absent (resolving : (run events).books.broker.state d = .resolving)
    (absent : ((run events).step event).books.broker.state d = .absent) :
    event.isSwitch = true ∨
      ∃ n, Table.get? (run events).books.broker.inFlight d.glossKey = some n ∧
        Books.Fails n (run events).books ((run events).step event).books := by
  cases stays : event.isSwitch with
  | true => exact Or.inl rfl
  | false =>
    right
    obtain ⟨k, ticket, p⟩ := exists_prepares events stays
    have h := (sound_run events).books
    have later := (sound_run (events ++ [event])).books
    have orderly := orderly_run (events ++ [event])
    rw [run_snoc] at later orderly
    obtain ⟨-, going⟩ := Broker.state_eq_resolving_iff.mp resolving
    obtain ⟨unknown, free⟩ := Broker.state_eq_absent_iff.mp absent
    obtain ⟨n, going⟩ := Option.isSome_iff_exists.mp going
    obtain ⟨f, here, own, current, open_⟩ := (h.under_way _ n).mp going
    obtain ⟨g, there, key, -, epoch, -⟩ := (grows_step (run events) event).fetch here
    have current' := (epoch.trans current).trans p.epoch_eq.symm
    refine ⟨n, going, ?_, ?_⟩
    · cases stage : f.stage with
      | finished outcome =>
        rw [stage] at open_
        cases open_
      | _ => simp only [Broker.outcome?, here, Option.map_some, stage]
    · -- The fetch is over, for it would be under way, and it has left no text.
      cases stage : g.stage with
      | finished outcome =>
        have ended : ((run events).step event).books.broker.outcome? n = some outcome := by
          simp only [Broker.outcome?, there, Option.map_some, stage]
        cases outcome with
        | error failure => exact ⟨failure, ended⟩
        | ok r =>
          have known : (Table.get? ((run events).step event).books.broker.entries g.key).isSome :=
            orderly.kept there current' stage
          rw [key, own, unknown] at known
          cases known
      | _ =>
        have under := (later.under_way d.glossKey n).mpr
          ⟨g, there, key.trans own, current', by rw [stage]; rfl⟩
        rw [free] at under
        cases under

/-- A text is lost only if the file was replaced. -/
theorem replaced_of_lost (resolved : (run events).books.broker.state d = .resolved)
    (lost : ((run events).step event).books.broker.state d ≠ .resolved) :
    event.isSwitch = true ∧ ((run events).step event).books.broker.state d = .absent := by
  cases replaced : event.isSwitch with
  | true => exact ⟨rfl, state_of_switch replaced⟩
  | false =>
    have rests := rests_step (sound_run events).settled (Broker.state_eq_resolved_iff.mp resolved)
      replaced
    exact absurd (Broker.state_eq_resolved_iff.mpr rests.known) lost

end Changes

/-! ## Fetches that come to nothing -/

section Failures

variable {events : List Event} {event : Event} {n : Nat}

theorem stays_of_moved (moved : ((run events).step event).books.broker.fetches[n]? ≠
    (run events).books.broker.fetches[n]?) : event.isSwitch = false := by
  cases event with
  | switchFile fileId => exact absurd rfl moved
  | _ => rfl

/-- A fetch that moves by an event, and not to a resolution, makes known its own list at most. -/
theorem adopts_of_moved (moved : ((run events).step event).books.broker.fetches[n]? ≠
      (run events).books.broker.fetches[n]?)
    (failed : ∀ r, ((run events).step event).books.broker.outcome? n ≠ some (.ok r)) :
    Books.Adopts n (run events).books ((run events).step event).books := by
  obtain ⟨k, ticket, p⟩ := exists_prepares events (stays_of_moved moved)
  obtain ⟨epoch, rfl⟩ := p.ticket_of_moved moved
  rw [p.after] at failed ⊢
  exact (Books.adopts_poll p.sound _ n failed).of_entries_eq p.grows p.tables.1

variable (fails : Books.Fails n (run events).books ((run events).step event).books)
  {f : Fetch} (there : ((run events).step event).books.broker.fetches[n]? = some f)
include fails there

/-- A fetch that comes to a failure by an event is polled by it, and was not over.  If it was opened
by the event, it is of the current epoch, and only its own key has found a place among those that
are under way. -/
theorem exists_polled :
    ∃ k epoch f₀, Prepares (run events) event k (.fetch n epoch) ∧
      k.broker.fetches[n]? = some f₀ ∧ k.broker.outcome? n = none ∧
      f.key = f₀.key ∧ f.epoch = f₀.epoch ∧
      (k.broker.inFlight = (run events).books.broker.inFlight ∨
        f₀.epoch = k.broker.epoch ∧ ∀ key, key ≠ f₀.key →
          Table.get? k.broker.inFlight key =
            Table.get? (run events).books.broker.inFlight key) := by
  obtain ⟨k, ticket, p⟩ := exists_prepares events (stays_of_moved fails.moved)
  obtain ⟨epoch, rfl⟩ := p.ticket_of_moved fails.moved
  have after : ((run events).step event).books = k.poll (run events).supply n := p.after
  have started : ∃ f₀, k.broker.fetches[n]? = some f₀ ∧ k.broker.outcome? n = none ∧
      (k.broker.inFlight = (run events).books.broker.inFlight ∨
        f₀.epoch = k.broker.epoch ∧ ∀ key, key ≠ f₀.key →
          Table.get? k.broker.inFlight key =
            Table.get? (run events).books.broker.inFlight key) := by
    rcases p.tables.2 with ⟨in_flight, fetches⟩ | ⟨d, fileId, -, broker, for_⟩
    · have going : k.broker.outcome? n = none := by
        rw [Broker.outcome?, fetches]
        exact fails.1
      cases here : k.broker.fetches[n]? with
      | none =>
        -- What is not there does not come to a failure.
        obtain ⟨-, failure, failed⟩ := fails
        rw [after, Books.poll_of_no_fetch _ here, going] at failed
        cases failed
      | some f₀ => exact ⟨f₀, rfl, going, Or.inl in_flight⟩
    · cases for_
      rw [broker]
      refine ⟨_, List.getElem?_concat_length, ?_, Or.inr ⟨rfl, fun key apart => ?_⟩⟩
      · simp [Broker.outcome?, Broker.openFetch, Broker.load]
      · exact (Table.get?_insert ..).trans (if_neg apart)
  obtain ⟨f₀, here, going, in_flight⟩ := started
  obtain ⟨f', there', key, -, made, -⟩ := (k.grows_poll (run events).supply n).fetch here
  rw [← after, there, Option.some.injEq] at there'
  subst there'
  exact ⟨k, epoch, f₀, p, here, going, key, made, in_flight⟩

/-- A fetch of the current epoch that comes to a failure is under way no longer, and it is the only
one.  A fetch of an earlier epoch touches no table. -/
theorem tables_of_fails :
    (f.epoch = ((run events).step event).books.broker.epoch →
      Table.get? ((run events).step event).books.broker.inFlight f.key = none ∧
        ∀ key, key ≠ f.key → Table.get? ((run events).step event).books.broker.inFlight key =
          Table.get? (run events).books.broker.inFlight key) ∧
    (f.epoch ≠ ((run events).step event).books.broker.epoch →
      ((run events).step event).books.broker.entries = (run events).books.broker.entries ∧
        ((run events).step event).books.broker.inFlight =
          (run events).books.broker.inFlight) := by
  obtain ⟨k, epoch, f₀, p, here, going, key, made, opened⟩ := exists_polled fails there
  have after : ((run events).step event).books = k.poll (run events).supply n := p.after
  have advanced := Books.advanced_poll (run events).supply here
  rw [key, made, after, advanced.epoch]
  refine ⟨fun current => ⟨?_, fun other apart => ?_⟩, fun past => ?_⟩
  · obtain ⟨-, failure, failed⟩ := fails
    rw [after] at failed
    exact p.sound.gone_of_outcome? _ here current going failed
  · rw [advanced.apart other apart]
    rcases opened with same | ⟨-, others⟩
    · rw [same]
    · exact others other apart
  · obtain ⟨entries, in_flight⟩ := advanced.past past
    refine ⟨entries.trans p.tables.1, in_flight.trans ?_⟩
    rcases opened with same | ⟨current, -⟩
    · exact same
    · exact absurd current past

/-- When a fetch of the current epoch has come to a failure nothing is under way for its key, and a
text that is known for it stood in a list. -/
theorem vacant_of_fails (current : f.epoch = ((run events).step event).books.broker.epoch) :
    ((run events).step event).books.Vacant f.key := by
  refine ⟨((tables_of_fails fails there).1 current).1, fun known => ?_⟩
  obtain ⟨k, epoch, f₀, p, here, going, key, made, -⟩ := exists_polled fails there
  have after : ((run events).step event).books = k.poll (run events).supply n := p.after
  have advanced := Books.advanced_poll (run events).supply here
  obtain ⟨-, failure, failed⟩ := fails
  rw [after] at known current failed ⊢
  have adopts := Books.adopts_poll p.sound (run events).supply n fun r ended => by
    rw [failed] at ended
    cases ended
  rcases adopts.known_or_listed known with before | listed
  · -- Before the ticket was shown the fetch was under way.
    have under := (p.sound.under_way f.key n).mpr ⟨f₀, here, key.symm,
      (made.symm.trans current).trans advanced.epoch, Books.isOver_of_outcome? here going⟩
    exact (p.orderly.supplied before under).grows advanced.grows advanced.epoch
  · exact listed

end Failures

/-- Where nothing is under way for a key, a demand for it asks for the list of its file, unless a
list has supplied the key. -/
theorem calls_of_vacant {events : List Event} {d : Definition}
    (vacant : (run events).books.Vacant d.glossKey) {fileId : String}
    (here : (run events).books.broker.isElsewhere fileId = false) :
    (run events).books.Listed d.glossKey ∨
      ∃ rest, (run (events ++ [.demand (.gloss d fileId)])).books.broker.calls =
        (run events).books.broker.calls ++ .list fileId :: rest := by
  have h := (sound_run events).books.demand (.gloss d fileId)
  rw [run_snoc, step_books, handle_demand]
  simp only [Books.demand, Books.resolve] at h ⊢
  rcases Broker.resolve_cases d fileId (run events).books.broker with ⟨apart, -⟩ |
    ⟨-, ⟨text, known, -⟩ | ⟨-, n, going, -⟩ | ⟨-, -, eq⟩⟩
  · rw [here] at apart
    cases apart
  · exact Or.inl (vacant.supplied (Option.isSome_iff_exists.mpr ⟨text, known⟩))
  · rw [vacant.free] at going
    cases going
  · rw [eq] at h ⊢
    exact Or.inr (Books.calls_poll_of_fresh h _ List.getElem?_concat_length rfl)

/-- **What becomes of a definition.**  Let anything happen after any run, and let `before` and
`after` be the books around it.  For each definition:

* Where there was nothing, a fetch is under way afterwards only if the annotation of the key was
  demanded and a fetch was opened for it.
* Where there was no text, there is one afterwards only if an answer was taken that tells it, to an
  inquiry of the epoch.
* Of a fetch that was under way nothing is left only if it has come to a failure or the file was
  replaced.
* A text is lost only when the file is replaced, and then nothing is left.

And whenever a fetch comes to a failure:

* If it is of the current epoch, it is under way no longer, and all others are as they were.
* If it is of an earlier epoch, neither the known texts nor the fetches that are under way change.
* Each time that it moved before, nothing became known but what stood in its own list.
* The next demand of the file for its key asks for the list again, unless a list has supplied the
  key.

No fetch stays where it is while it can go on: when its ticket is shown it moves if it has anything
to do, and then it is over or the answer that it waits for is not at hand. -/
theorem state_changes (events : List Event) (event : Event) :
    let before := (run events).books
    let after := (run (events ++ [event])).books
    (∀ d : Definition,
      (before.broker.state d = .absent → after.broker.state d = .resolving →
        ∃ d' fileId f, event = .demand (.gloss d' fileId) ∧ d'.glossKey = d.glossKey ∧
          after.broker.fetches[before.broker.fetches.length]? = some f ∧
          f.key = d.glossKey ∧ f.fileId = fileId ∧
          Table.get? after.broker.inFlight d.glossKey = some before.broker.fetches.length) ∧
      (before.broker.state d ≠ .resolved → after.broker.state d = .resolved →
        event.isSwitch = false ∧ ∃ receipt ∈ after.receipts.drop before.receipts.length, ∃ text,
          Books.Counts after.slips after.broker.epoch receipt d.glossKey text) ∧
      (before.broker.state d = .resolving → after.broker.state d = .absent →
        event.isSwitch = true ∨
          ∃ n, Table.get? before.broker.inFlight d.glossKey = some n ∧
            Books.Fails n before after) ∧
      (before.broker.state d = .resolved → after.broker.state d ≠ .resolved →
        event.isSwitch = true ∧ after.broker.state d = .absent)) ∧
    (∀ n f, after.broker.fetches[n]? = some f → Books.Fails n before after →
      (f.epoch = after.broker.epoch → Table.get? after.broker.inFlight f.key = none ∧
        ∀ key, key ≠ f.key →
          Table.get? after.broker.inFlight key = Table.get? before.broker.inFlight key) ∧
      (f.epoch ≠ after.broker.epoch → after.broker.entries = before.broker.entries ∧
        after.broker.inFlight = before.broker.inFlight) ∧
      (∀ i, (run ((events ++ [event]).take (i + 1))).books.broker.fetches[n]? ≠
          (run ((events ++ [event]).take i)).books.broker.fetches[n]? →
        Books.Adopts n (run ((events ++ [event]).take i)).books
          (run ((events ++ [event]).take (i + 1))).books) ∧
      (f.epoch = after.broker.epoch →
        ∀ (more : List Event) (d : Definition) (fileId : String), d.glossKey = f.key →
        (∀ i d' fileId', more[i]? = some (.demand (.gloss d' fileId')) → d'.glossKey = f.key →
          (run (events ++ [event] ++ more.take i)).books.broker.isElsewhere fileId' = true) →
        let now := (run (events ++ [event] ++ more)).books
        now.broker.isElsewhere fileId = false →
          now.Listed f.key ∨
            ∃ rest, (run (events ++ [event] ++ more ++
                [.demand (.gloss d fileId)])).books.broker.calls =
              now.broker.calls ++ .list fileId :: rest)) ∧
    ∀ m n epoch e, event = .attend m → (run events).errands[m]? = some e → e.state = .waiting →
      e.ticket = .fetch n epoch →
      (¬before.Idle (run events).supply n →
        after.broker.fetches[n]? ≠ before.broker.fetches[n]?) ∧
      after.Idle (run events).supply n := by
  intro before after
  have step : after = ((run events).step event).books := congrArg books (run_snoc events event)
  refine ⟨fun d => ?_, fun n f there fails => ?_, ?_⟩
  · rw [step]
    exact ⟨opened_of_resolving, told_of_resolved, failed_of_absent, replaced_of_lost⟩
  · have moved := there
    have comes := fails
    rw [step] at moved comes
    obtain ⟨current, past⟩ := tables_of_fails comes moved
    rw [← step] at current past
    refine ⟨current, past, fun i moved => ?_, fun same more d fileId own other => ?_⟩
    · cases here : (events ++ [event])[i]? with
      | none =>
        rw [List.take_add_one, here, Option.toList_none, List.append_nil] at moved
        exact absurd rfl moved
      | some e =>
        -- The fetch keeps its outcome, so it did not come to a resolution then.
        have lt := (List.getElem?_eq_some_iff.mp here).1
        have grows := grows_run (events ++ [event]) (Nat.succ_le_of_lt lt)
        rw [List.take_length] at grows
        obtain ⟨-, failure, failed⟩ := fails
        have apart : ∀ r, (run ((events ++ [event]).take (i + 1))).books.broker.outcome? n ≠
            some (.ok r) := by
          intro r ended
          have ended : after.broker.outcome? n = some (.ok r) := grows.outcome? ended
          rw [failed] at ended
          cases ended
        rw [run_take_succ here] at moved apart ⊢
        exact adopts_of_moved moved apart
    · intro later here
      have vacant : after.Vacant f.key := by
        rw [step] at same ⊢
        exact vacant_of_fails comes moved same
      have still := vacant_run vacant more other
      rw [← own] at still ⊢
      exact calls_of_vacant still here
  · rintro m n epoch e rfl here waiting ticket
    have polled : after = before.poll (run events).supply n :=
      books_attend_of_fetch here waiting ticket
    rw [polled]
    exact ⟨Books.fetch_poll_of_busy, Books.idle_poll _ n before⟩

/-- When a list could not be had, whoever shows the ticket finds nothing left of the fetch. -/
theorem state_changes_at_failure :
    let d : Definition :=
      { kind := .function, name := "a", firstLine := 1, lastLine := 1, text := "def a(): ..." }
    let events : List Event :=
      [.switchFile (some "f"), .demand (.gloss d "f"), .answer 0 (.failed (.transport "down"))]
    let before := (run events).books
    let after := (run (events ++ [.attend 0])).books
    before.broker.state d = .resolving ∧ after.broker.state d = .absent ∧
      (∃ n, Table.get? before.broker.inFlight d.glossKey = some n ∧ Books.Fails n before after) ∧
      after.Idle (run events).supply 0 := by
  intro d events before after
  have was : before.broker.state d = .resolving := by decide
  have is_now : after.broker.state d = .absent := by decide
  obtain ⟨changes, -, moves⟩ := state_changes events (.attend 0)
  refine ⟨was, is_now, ?_, ?_⟩
  · rcases (changes d).2.2.1 was is_now with replaced | fails
    · cases replaced
    · exact fails
  · exact (moves 0 0 1 { demand := .gloss d "f", start := 1, ticket := .fetch 0 1 } rfl
      (by decide) rfl rfl).2

/-- A failure leaves nothing of a demand but what the list has brought, and the next demand asks for
the list again. -/
example :
    let d : Definition :=
      { kind := .function, name := "a", firstLine := 1, lastLine := 1, text := "def a(): ..." }
    let failing : List Event :=
      [.switchFile (some "f"), .demand (.gloss d "f"), .answer 0 (.glosses [⟨"b", "t"⟩]),
        .attend 0, .answer 1 (.failed (.transport "down")), .attend 0]
    (run failing).books.broker.state d = .absent ∧
      (run failing).books.broker.entries = [("b", "t")] ∧
      (run (failing ++ [.demand (.gloss d "f")])).books.broker.calls =
        [.list "f", .generate "f" d.text, .list "f"] := by
  decide

end Ledger
end CodeGloss
