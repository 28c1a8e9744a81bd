import CodeGloss.Proofs.Broker.Progress
import CodeGloss.Proofs.Broker.Resting

/-!
# Demands share fetches

Demands for one key are served by one fetch while it is under way, so that the service is asked once
for all of them and they all get the same.  Whether they wait or have given up makes no difference
to the fetch: it stays where it is until the next demand for its key comes along and takes it
further.
-/

namespace CodeGloss

open Service (Answer Inquiry)

namespace Books

/-! ## One inquiry at a time -/

/-- The inquiries of the current epoch that still wait for an answer to be taken are for different
keys.  For each there is a fetch that waits for it, and there is only one such fetch for a key. -/
theorem Sound.one_outstanding {k : Books} (h : k.Sound) {key : String} {i j : Nat} {s t : Slip}
    (here : k.slips[i]? = some s) (there : k.slips[j]? = some t) (own : s.key = some key)
    (own' : t.key = some key) (current : s.epoch = k.broker.epoch)
    (current' : t.epoch = k.broker.epoch) (open_ : i ∉ k.receipts.map Prod.fst)
    (open_' : j ∉ k.receipts.map Prod.fst) : i = j := by
  obtain ⟨n, f, fetch, named, made, awaited⟩ := h.outstanding here own open_
  obtain ⟨m, g, fetch', named', made', awaited'⟩ := h.outstanding there own' open_'
  have under := (h.under_way key n).mpr
    ⟨f, fetch, named, made.trans current, Fetch.going_of_awaited? awaited⟩
  have under' := (h.under_way key m).mpr
    ⟨g, fetch', named', made'.trans current', Fetch.going_of_awaited? awaited'⟩
  rw [under, Option.some.injEq] at under'
  subst under'
  rw [fetch, Option.some.injEq] at fetch'
  subst fetch'
  rw [awaited, Option.some.injEq, Prod.mk.injEq] at awaited'
  exact awaited'.1

/-! ## What a fetch asks on its way -/

/-- Whether the fetch `n` has nothing to ask any more. -/
def Quiet (n : Nat) (k : Books) : Prop :=
  ∀ f, k.broker.fetches[n]? = some f → f.stage ≠ .fresh ∧ ∀ call, f.stage ≠ .listing call

theorem quiet_advance {k : Books} {n : Nat} (quiet : k.Quiet n) (supply : Supply) :
    (k.advance supply n).slips = k.slips ∧ (k.advance supply n).Quiet n := by
  rcases advance_cases supply n k with ⟨-, same⟩ | ⟨f, t, here, fits, -, eq⟩
  · rw [same]
    exact ⟨rfl, quiet⟩
  · rw [eq]
    obtain ⟨taken, asked, stage, entries⟩ := t
    obtain ⟨later, listed⟩ := quiet f here
    cases fits.goes with
    | lists fresh => exact absurd fresh later
    | generates listing same absent => exact absurd listing (listed _)
    | ends outcome known =>
      refine ⟨List.append_nil _, fun g there => ?_⟩
      rw [fetch_turn_self here, Option.some.injEq] at there
      subst there
      simp

/-- A fetch that was already polled asks for a new annotation at most, and only if it was waiting
for the list. -/
theorem slips_poll {k : Books} (settled : k.Settled) (supply : Supply) (n : Nat) :
    (k.poll supply n).slips = k.slips ∨
      ∃ f call, k.broker.fetches[n]? = some f ∧ f.stage = .listing call ∧
        (k.poll supply n).slips =
          k.slips ++ [⟨.generate f.fileId f.code, some f.key, k.broker.epoch⟩] := by
  have rest : (k.advance supply n).Quiet n →
      (k.poll supply n).slips = (k.advance supply n).slips := by
    intro quiet
    obtain ⟨second, quiet⟩ := quiet_advance quiet supply
    exact (quiet_advance quiet supply).1.trans second
  rcases advance_cases supply n k with ⟨-, same⟩ | ⟨f, t, here, fits, -, eq⟩
  · left
    rw [poll, same, same, same]
  · rw [eq] at rest
    obtain ⟨taken, asked, stage, entries⟩ := t
    cases fits.goes with
    | lists fresh => exact absurd fresh (settled n f here)
    | generates listing same absent =>
      refine Or.inr ⟨f, _, here, listing, rest fun g there => ?_⟩
      rw [fetch_turn_self here, Option.some.injEq] at there
      subst there
      simp
    | ends outcome known =>
      refine Or.inl ((rest fun g there => ?_).trans (List.append_nil _))
      rw [fetch_turn_self here, Option.some.injEq] at there
      subst there
      simp

/-- A fetch that waits in vain asks nothing, whoever shows a ticket. -/
theorem poll_of_idle {k : Books} {supply : Supply} {n : Nat} (idle : k.Idle supply n) :
    k.poll supply n = k := by
  have same := advance_of_idle idle
  rw [poll, same, same, same]

end Books

namespace Ledger

/-! ## Giving up -/

/-- Whoever gives up changes nothing but the errand. -/
theorem run_giveUp (events more : List Event) (dropped : ∀ event ∈ more, event.isGiveUp = true) :
    (run (events ++ more)).books = (run events).books ∧
      (run (events ++ more)).answers = (run events).answers := by
  induction more using List.reverseRecOn with
  | nil => rw [List.append_nil]; exact ⟨rfl, rfl⟩
  | append_singleton more event ih =>
    obtain ⟨books, answers⟩ := ih fun e mem => dropped e (List.mem_append_left _ mem)
    have given_up := dropped event (by simp)
    rw [← List.append_assoc, run_snoc]
    cases event with
    | giveUp n => exact ⟨books, answers⟩
    | _ => cases given_up

section

variable {l : Ledger} {d : Definition} {fileId : String}
  (loaded : l.books.broker.fileId = some fileId)
include loaded

/-- A demand for a key that is known changes nothing. -/
theorem demand_of_known {text : String}
    (known : Table.get? l.books.broker.entries d.glossKey = some text) :
    (l.step (.demand (.gloss d fileId))).books = l.books := by
  rw [step_books, handle_demand]
  rcases Books.demand_of_loaded loaded with ⟨text, -, eq⟩ | ⟨absent, -⟩
  · rw [eq]
    rfl
  · rw [known] at absent
    cases absent

/-- A demand for a key whose fetch is under way takes that fetch further. -/
theorem demand_of_under_way {n : Nat}
    (absent : Table.get? l.books.broker.entries d.glossKey = none)
    (going : Table.get? l.books.broker.inFlight d.glossKey = some n) :
    (l.step (.demand (.gloss d fileId))).books = l.books.poll l.supply n ∧
      ∃ e : Errand, (l.step (.demand (.gloss d fileId))).errands = l.errands ++ [e] ∧
        e.ticket = .fetch n l.books.broker.epoch := by
  show (l.handle _).books = _ ∧ ∃ e, (l.handle _).errands = _ ∧ _
  rw [handle_demand]
  rcases Books.demand_of_loaded loaded with ⟨text, known, -⟩ | ⟨-, ⟨m, under, eq⟩ | ⟨free, -⟩⟩
  · rw [absent] at known
    cases known
  · rw [going, Option.some.injEq] at under
    subst under
    rw [eq]
    refine ⟨rfl, _, rfl, ?_⟩
    unfold Errand.serve
    split <;> rfl
  · rw [going] at free
    cases free

end

/-! ## Outcomes that are shared -/

/-- Those who share a fetch and have seen no file replaced get the same. -/
theorem same_outcome {events : List Event} {e e' : Errand} (h : e.Sound events)
    (h' : e'.Sound events) {n epoch epoch' : Nat} (ticket : e.ticket = .fetch n epoch)
    (ticket' : e'.ticket = .fetch n epoch') {time time' : Nat}
    {outcome outcome' : Resolution.Outcome} (served : e.state = .served time outcome)
    (served' : e'.state = .served time' outcome') (still : ¬Switched events e.start time)
    (still' : ¬Switched events e'.start time') : outcome = outcome' := by
  obtain ⟨o, ended, kept, -⟩ := served_of_fetch h ticket served
  obtain ⟨o', over', kept', -⟩ := served_of_fetch h' ticket' served'
  have same : o = o' := by
    rcases Nat.le_total time time' with le | le
    · have later := (grows_run events (Nat.succ_le_succ le)).outcome? ended
      exact Option.some.inj (later.symm.trans over')
    · have later := (grows_run events (Nat.succ_le_succ le)).outcome? over'
      exact Option.some.inj (ended.symm.trans later)
  rw [kept still, kept' still', same]

/-- **Demands share fetches.**  In every run:

* For each key there is at most one inquiry of the current epoch whose answer was not taken.
* Demands that are served by one fetch, with no file replaced since they were made, are served with
  the same.
* Once a text is known for a key, no further inquiry is made for it until a file is replaced.
* However many demands are given up, the next one for the key of a fetch that is under way changes
  nothing if the text is known.  Otherwise it takes that very fetch further from where it is:
  nothing happens while the answer that it waits for is missing, and when it is there the fetch moves
  on, until it is over or waits for an answer that is missing.  It asks for a new annotation at most,
  and only if it was waiting for the list. -/
theorem demands_share_fetches (events : List Event) :
    (∀ (key : String) (i j : Nat) (s t : Slip), (run events).books.slips[i]? = some s →
        (run events).books.slips[j]? = some t → s.key = some key → t.key = some key →
        s.epoch = (run events).books.broker.epoch → t.epoch = (run events).books.broker.epoch →
        i ∉ (run events).books.receipts.map Prod.fst →
        j ∉ (run events).books.receipts.map Prod.fst → i = j) ∧
      (∀ e ∈ (run events).errands, ∀ e' ∈ (run events).errands,
        ∀ (n epoch epoch' time time' : Nat) (outcome outcome' : Resolution.Outcome),
        e.ticket = .fetch n epoch → e'.ticket = .fetch n epoch' →
        e.state = .served time outcome → e'.state = .served time' outcome' →
        ¬Switched events e.start time → ¬Switched events e'.start time' → outcome = outcome') ∧
      (∀ (key : String) (more : List Event),
        (Table.get? (run events).books.broker.entries key).isSome →
        (∀ event ∈ more, event.isSwitch = false) →
        (run (events ++ more)).books.asked key = (run events).books.asked key) ∧
      ∀ (d : Definition) (fileId : String) (n : Nat) (more : List Event),
        (run events).books.broker.fileId = some fileId →
        Table.get? (run events).books.broker.inFlight d.glossKey = some n →
        (∀ event ∈ more, event.isGiveUp = true) →
        let before := (run events).books
        let after := run (events ++ more ++ [.demand (.gloss d fileId)])
        (∀ text, Table.get? before.broker.entries d.glossKey = some text → after.books = before) ∧
          (Table.get? before.broker.entries d.glossKey = none →
            after.books = before.poll (run events).supply n ∧
            (∃ e : Errand, after.errands.getLast? = some e ∧
              e.ticket = .fetch n before.broker.epoch) ∧
            (before.Idle (run events).supply n → after.books = before) ∧
            (¬before.Idle (run events).supply n →
              after.books.broker.fetches[n]? ≠ before.broker.fetches[n]?) ∧
            after.books.Idle (run events).supply n ∧
            (after.books.slips = before.slips ∨
              ∃ f call, before.broker.fetches[n]? = some f ∧ f.stage = .listing call ∧
                after.books.slips = before.slips ++
                  [⟨.generate f.fileId f.code, some f.key, before.broker.epoch⟩])) := by
  have h := sound_run events
  refine ⟨?_, ?_, ?_, ?_⟩
  · intro key i j s t here there own own' current current' open_ open_'
    exact h.books.one_outstanding here there own own' current current' open_ open_'
  · intro e mem e' mem' n epoch epoch' time time' outcome outcome' ticket ticket' served served'
    exact same_outcome (h.errands e mem) (h.errands e' mem') ticket ticket' served served'
  · intro key more known stays
    exact (rests_run events more known stays).asked
  · intro d fileId n more loaded going dropped
    obtain ⟨books, answers⟩ := run_giveUp events more dropped
    have supply : (run (events ++ more)).supply = (run events).supply := by
      funext call inquiry
      rw [Ledger.supply, Ledger.supply, answers]
    rw [← books] at loaded going
    dsimp only
    rw [run_snoc]
    refine ⟨fun text known => ?_, fun absent => ?_⟩
    · rw [← books] at known
      rw [demand_of_known loaded known, books]
    · rw [← books] at absent
      obtain ⟨polled, e, errands, ticket⟩ := demand_of_under_way loaded absent going
      rw [books, supply] at polled
      rw [books] at ticket
      refine ⟨polled, ⟨e, ?_, ticket⟩, fun idle => ?_, fun busy => ?_, ?_, ?_⟩
      · rw [errands, List.getLast?_append, List.getLast?_singleton, Option.some_or]
      · rw [polled, Books.poll_of_idle idle]
      · rw [polled]
        exact Books.fetch_poll_of_busy busy
      · rw [polled]
        exact Books.idle_poll _ n _
      · rw [polled]
        exact Books.slips_poll h.settled _ n

/-- A fetch that everybody has given up is taken further by the next demand for its key. -/
theorem demands_share_fetches_after_giving_up :
    let d : Definition :=
      { kind := .function, name := "a", firstLine := 1, lastLine := 1, text := "def a(): ..." }
    let events : List Event :=
      [.switchFile (some "f"), .demand (.gloss d "f"), .answer 0 (.glosses [])]
    let after := run (events ++ [.giveUp 0] ++ [.demand (.gloss d "f")])
    after.books = (run events).books.poll (run events).supply 0 ∧
      after.books.Idle (run events).supply 0 ∧
      after.books.broker.calls = [.list "f", .generate "f" d.text] := by
  intro d events after
  have joins := ((demands_share_fetches events).2.2.2 d "f" 0 [.giveUp 0] (by decide)
    (by decide) (by simp [Event.isGiveUp])).2 (by decide)
  exact ⟨joins.1, joins.2.2.2.2.1, by decide⟩

/-- Two demands for one key, the first of which is given up, cost one list and one text.  A third one
in between joins them. -/
example :
    let d : Definition :=
      { kind := .function, name := "a", firstLine := 1, lastLine := 1, text := "def a(): ..." }
    let l := run
      [.switchFile (some "f"), .demand (.gloss d "f"), .demand (.gloss d "f"), .giveUp 0,
        .answer 0 (.glosses []), .attend 1, .demand (.gloss d "f"), .answer 1 (.text "t"),
        .attend 1, .attend 2]
    l.books.broker.calls = [.list "f", .generate "f" d.text] ∧
      l.errands.map Errand.state =
        [.givenUp, .served 8 (.ok (.generated "t")), .served 9 (.ok (.generated "t"))] := by
  decide

end Ledger
end CodeGloss
