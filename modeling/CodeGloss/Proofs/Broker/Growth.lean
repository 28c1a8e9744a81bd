import CodeGloss.Proofs.Broker.Operations

/-!
# Books only grow

Nothing is ever struck from the books, and what a fetch is about never changes.  A fetch that is
over keeps its outcome.  So what one moment of a run says about a slip, a receipt, the key of a
fetch or its outcome is true of every later moment (`Books.Grows`).

The second half is about first steps: whoever opens a fetch polls it at once, and when no fetch is
fresh none becomes so (`Books.Settled`).
-/

namespace CodeGloss

open Service (Answer Inquiry)

namespace Books

/-- Whether one state of the books may come after another. -/
structure Grows (k k' : Books) : Prop where
  fetch : ∀ {n : Nat} {f : Fetch}, k.broker.fetches[n]? = some f →
    ∃ f', k'.broker.fetches[n]? = some f' ∧ f'.key = f.key ∧ f'.fileId = f.fileId ∧
      f'.epoch = f.epoch ∧ ∀ outcome, f.stage = .finished outcome → f'.stage = .finished outcome
  slips : k.slips <+: k'.slips
  receipts : k.receipts <+: k'.receipts

/-- A fetch with an outcome is over. -/
theorem stage_of_outcome? {k : Books} {n : Nat} {f : Fetch} {outcome : Resolution.Outcome}
    (here : k.broker.fetches[n]? = some f) (ended : k.broker.outcome? n = some outcome) :
    f.stage = .finished outcome := by
  rw [Broker.outcome?, here, Option.map_some] at ended
  split at ended
  next o stage =>
    cases ended
    exact Option.some.inj stage
  next => cases ended

namespace Grows

theorem of_eq {k k' : Books} (fetches : k'.broker.fetches = k.broker.fetches)
    (slips : k.slips <+: k'.slips) (receipts : k.receipts <+: k'.receipts) : k.Grows k' where
  fetch := by
    intro n f there
    exact ⟨f, by rw [fetches, there], rfl, rfl, rfl, fun _ ended => ended⟩
  slips := slips
  receipts := receipts

theorem refl (k : Books) : k.Grows k :=
  of_eq rfl (List.prefix_refl _) (List.prefix_refl _)

theorem trans {k k' k'' : Books} (first : k.Grows k') (second : k'.Grows k'') : k.Grows k'' where
  fetch := by
    intro n f there
    obtain ⟨f', there', key', file', epoch', over'⟩ := first.fetch there
    obtain ⟨f'', there'', key'', file'', epoch'', over''⟩ := second.fetch there'
    exact ⟨f'', there'', key''.trans key', file''.trans file', epoch''.trans epoch',
      fun outcome ended => over'' outcome (over' outcome ended)⟩
  slips := first.slips.trans second.slips
  receipts := first.receipts.trans second.receipts

/-- A slip stays where it is. -/
theorem slip {k k' : Books} (grows : k.Grows k') {call : Nat} {s : Slip}
    (there : k.slips[call]? = some s) : k'.slips[call]? = some s := by
  obtain ⟨more, eq⟩ := grows.slips
  rw [← eq, List.getElem?_append_left (List.getElem?_eq_some_iff.mp there).1, there]

theorem gave {k k' : Books} (grows : k.Grows k') {fileId key text : String}
    (gave : k.Gave fileId key text) : k'.Gave fileId key text := by
  obtain ⟨r, mem, s, there, rest⟩ := gave
  exact ⟨r, grows.receipts.subset mem, s, grows.slip there, rest⟩

/-- The outcome of a fetch stays what it is. -/
theorem outcome? {k k' : Books} (grows : k.Grows k') {n : Nat} {outcome : Resolution.Outcome}
    (ended : k.broker.outcome? n = some outcome) : k'.broker.outcome? n = some outcome := by
  cases there : k.broker.fetches[n]? with
  | none =>
    rw [Broker.outcome?, there] at ended
    cases ended
  | some f =>
    obtain ⟨f', there', -, -, -, stays⟩ := grows.fetch there
    rw [Broker.outcome?, there', Option.map_some, stays outcome (stage_of_outcome? there ended)]

end Grows

/-! ## Every operation lets the books grow -/

section Operations

variable (k : Books) (supply : Supply)

theorem grows_turn {n : Nat} {f : Fetch} {t : Turn} (here : k.broker.fetches[n]? = some f)
    (fits : Turn.Fits t f k) : k.Grows (k.turn n f t) where
  fetch := by
    intro m g there
    by_cases same : n = m
    · subst same
      rw [here, Option.some.injEq] at there
      subst there
      refine ⟨_, fetch_turn_self here, rfl, rfl, rfl, fun outcome ended => ?_⟩
      have going := fits.takes.going
      rw [ended] at going
      cases going
    · exact ⟨g, (fetch_turn_ne same).trans there, rfl, rfl, rfl, fun _ ended => ended⟩
  slips := List.prefix_append _ _
  receipts := List.prefix_append _ _

theorem grows_advance (n : Nat) : k.Grows (k.advance supply n) := by
  rcases advance_cases supply n k with ⟨-, same⟩ | ⟨f, t, here, fits, -, eq⟩
  · rw [same]
    exact .refl k
  · rw [eq]
    exact k.grows_turn here fits

theorem grows_poll (n : Nat) : k.Grows (k.poll supply n) :=
  ((k.grows_advance supply n).trans (grows_advance _ supply n)).trans (grows_advance _ supply n)

theorem grows_enter (key : Option String) {b : Broker} (fetches : b.fetches = k.broker.fetches) :
    k.Grows (k.enter key b) :=
  .of_eq fetches (List.prefix_append _ _) (List.prefix_refl _)

theorem grows_present (ticket : Ticket) : k.Grows (k.present supply ticket).1 := by
  cases ticket with
  | ready outcome => exact .refl k
  | fetch n epoch => exact k.grows_poll supply n
  | call n epoch => exact .of_eq rfl (List.prefix_refl _) (List.prefix_append _ _)

theorem grows_switchFile (fileId : Option String) : k.Grows (k.switchFile fileId) :=
  .of_eq rfl (List.prefix_refl _) (List.prefix_refl _)

theorem grows_openFetch (d : Definition) (fileId : String) :
    k.Grows { k with broker := k.broker.openFetch d fileId } where
  fetch there := ⟨_, fetch_open_of_fetch there, rfl, rfl, rfl, fun _ ended => ended⟩
  slips := List.prefix_refl _
  receipts := List.prefix_refl _

theorem grows_resolve (d : Definition) (fileId : String) : k.Grows (k.resolve d fileId).1 := by
  have load : k.Grows { k with broker := k.broker.load fileId } :=
    .of_eq rfl (List.prefix_refl _) (List.prefix_refl _)
  rcases Broker.resolve_cases d fileId k.broker with ⟨-, eq⟩ | ⟨-, ⟨text, -, eq⟩ |
    ⟨-, n, -, eq⟩ | ⟨-, -, eq⟩⟩
  · rw [resolve, eq]
    exact .refl k
  · rw [resolve, eq]
    exact load
  · rw [resolve, eq]
    exact load
  · rw [resolve, eq]
    exact load.trans (grows_openFetch _ d fileId)

theorem grows_sayMore (d : Definition) (fileId current : String) :
    k.Grows (k.sayMore d fileId current).1 := by
  refine k.grows_enter none ?_
  unfold Broker.sayMore
  split <;> rfl

end Operations

/-! ## First steps -/

section Settled

variable {k : Books} (supply : Supply) {n : Nat}

/-- A step settles the fetch that makes it. -/
theorem settled_advance (others : ∀ (m : Nat) (f : Fetch), m ≠ n →
      k.broker.fetches[m]? = some f → f.stage ≠ .fresh) : (k.advance supply n).Settled := by
  intro m f there
  rcases advance_cases supply n k with ⟨idle, same⟩ | ⟨g, t, here, fits, -, eq⟩
  · rw [same] at there
    by_cases own : m = n
    · subst own
      intro fresh
      rcases idle f there with ended | ⟨call, inquiry, awaited, -⟩
      · rw [fresh] at ended
        cases ended
      · rw [Fetch.awaited?, fresh] at awaited
        cases awaited
    · exact others m f own there
  · rw [eq] at there
    rcases fetch_turn_cases here there with ⟨-, rfl⟩ | ⟨other, old⟩
    · exact fits.goes.not_fresh
    · exact others m f (Ne.symm other) old

theorem settled_poll (others : ∀ (m : Nat) (f : Fetch), m ≠ n →
      k.broker.fetches[m]? = some f → f.stage ≠ .fresh) : (k.poll supply n).Settled := by
  have once := settled_advance supply others
  have twice := settled_advance supply fun m f (_ : m ≠ n) => once m f
  exact settled_advance supply fun m f _ => twice m f

theorem Settled.present (h : k.Settled) (ticket : Ticket) :
    (k.present supply ticket).1.Settled := by
  cases ticket with
  | ready outcome => exact h
  | fetch n epoch => exact settled_poll supply fun m f _ => h m f
  | call n epoch => exact h

/-- A fetch that a demand opens makes its first step when the ticket is shown. -/
theorem Settled.resolve (h : k.Settled) (d : Definition) (fileId : String) :
    ((k.resolve d fileId).1.present supply (k.resolve d fileId).2).1.Settled := by
  rcases Broker.resolve_cases d fileId k.broker with ⟨-, eq⟩ | ⟨-, ⟨text, -, eq⟩ |
    ⟨-, n, -, eq⟩ | ⟨-, -, eq⟩⟩
  · rw [Books.resolve, eq]
    exact Settled.present (k := k) supply h _
  · rw [Books.resolve, eq]
    exact Settled.present (k := { k with broker := k.broker.load fileId }) supply h _
  · rw [Books.resolve, eq]
    exact Settled.present (k := { k with broker := k.broker.load fileId }) supply h _
  · rw [Books.resolve, eq]
    refine settled_poll supply fun m f other there => ?_
    rcases fetch_open_cases (k := { k with broker := k.broker.load fileId }) there with
      old | ⟨here, -⟩
    · exact h m f old
    · exact absurd here other

end Settled

/-- Tickets that are not those of a fetch are for inquiries that were made for no key. -/
theorem Sound.present {k : Books} (h : k.Sound) (supply : Supply) {ticket : Ticket}
    (detail : ∀ n epoch, ticket = .call n epoch →
      ∃ s : Slip, k.slips[n]? = some s ∧ s.key = none) : (k.present supply ticket).1.Sound := by
  cases ticket with
  | ready outcome => exact h
  | fetch n epoch => exact h.poll supply n
  | call n epoch =>
    obtain ⟨s, there, no_key⟩ := detail n epoch rfl
    exact h.receive there no_key supply

end Books
end CodeGloss
