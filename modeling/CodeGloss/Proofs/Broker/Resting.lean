import CodeGloss.Proofs.Broker.LedgerSound

/-!
# Keys at rest

Once a text is known for a key, nothing more is asked for it while the file is loaded.  No demand
opens a fetch for a key that is known.  A fetch for it may still be under way, if a list that
another fetch had asked for has brought the text in the meantime; it will find the text when its own
list comes, and it does not ask for another one.  The only fetch that would ask without looking is
one that has not made its first step, and a fetch makes that step when it is opened.

Two moments are compared by `Books.Rests`: the key is known at both, and the inquiries that were
made for it are the same.
-/

namespace CodeGloss

open Service (Answer Inquiry)

/-! ## Texts that are known stay so -/

namespace Service.Inquiry

theorem isSome_get?_insert {t : Table String} {key : String}
    (known : (Table.get? t key).isSome) (other text : String) :
    (Table.get? (Table.insert other text t) key).isSome := by
  rw [Table.get?_insert]
  split
  · rfl
  · exact known

/-- An answer takes nothing away. -/
theorem isSome_get?_credit {t : Table String} {key : String} (known : (Table.get? t key).isSome)
    (own : String) (inquiry : Inquiry) (a : Answer) :
    (Table.get? (inquiry.credit own a t) key).isSome := by
  cases inquiry with
  | list fileId =>
    cases said : a.toGlosses with
    | error failure => simpa only [credit, said] using known
    | ok glosses =>
      simp only [credit, said]
      clear said
      induction glosses generalizing t with
      | nil => exact known
      | cons gloss rest ih => exact ih (isSome_get?_insert known _ _)
  | generate fileId code =>
    cases said : a.toText with
    | error failure => simpa only [credit, said] using known
    | ok text =>
      simp only [credit, said]
      exact isSome_get?_insert known _ _
  | upload name content => exact known

end Service.Inquiry

namespace Books

/-- Whether a text is known for a key. -/
def Known (key : String) (k : Books) : Prop :=
  (Table.get? k.broker.entries key).isSome

/-- The slips of the inquiries that were made for a key. -/
def asked (key : String) (k : Books) : List Slip :=
  k.slips.filter (·.key = some key)

/-- Whether a key is known at two moments and nothing was asked for it in between. -/
structure Rests (key : String) (k k' : Books) : Prop where
  known : k'.Known key
  asked : k'.asked key = k.asked key

/-- Whether the fetch `n`, if it has yet to make its first step, is for another key. -/
def Apart (key : String) (n : Nat) (k : Books) : Prop :=
  ∀ f, k.broker.fetches[n]? = some f → f.stage = .fresh → f.key ≠ key

theorem Settled.apart {k : Books} (h : k.Settled) (key : String) (n : Nat) : k.Apart key n :=
  fun f here fresh => absurd fresh (h n f here)

section Rests

variable {key : String} {k : Books}

theorem Rests.refl (known : k.Known key) : Rests key k k :=
  ⟨known, rfl⟩

theorem Rests.trans {k' k'' : Books} (first : Rests key k k') (second : Rests key k' k'') :
    Rests key k k'' :=
  ⟨second.known, second.asked.trans first.asked⟩

theorem Known.takes {f : Fetch} {taken : Option (Nat × Answer)} {entries : Table String}
    (known : k.Known key) (takes : Turn.Takes f k taken entries) :
    (Table.get? entries key).isSome := by
  cases takes with
  | nothing fresh => exact known
  | answer awaited a =>
    unfold credited
    split
    · exact Inquiry.isSome_get?_credit known _ _ _
    · exact known

/-- A turn asks for a key that is not known. -/
theorem rests_turn {n : Nat} {f : Fetch} {t : Turn} (known : k.Known key)
    (here : k.broker.fetches[n]? = some f) (apart : k.Apart key n) (fits : t.Fits f k) :
    Rests key k (k.turn n f t) where
  known := known.takes fits.takes
  asked := by
    have later := known.takes fits.takes
    have quiet : ∀ inquiry, t.asked = some inquiry → f.key ≠ key := by
      intro inquiry asked own
      have goes := fits.goes
      rw [asked] at goes
      generalize t.stage = stage at goes
      cases goes with
      | lists fresh => exact apart f here fresh own
      | generates listed same absent =>
        rw [own] at absent
        rw [absent] at later
        cases later
    show (k.slips ++ _).filter _ = _
    cases asked : t.asked with
    | none => simp only [Option.toList_none, List.map_nil, List.append_nil, Books.asked]
    | some inquiry =>
      have other := quiet inquiry asked
      simp [Books.asked, other]

theorem rests_advance (supply : Supply) {n : Nat} (known : k.Known key) (apart : k.Apart key n) :
    Rests key k (k.advance supply n) ∧ (k.advance supply n).Apart key n := by
  rcases advance_cases supply n k with ⟨-, same⟩ | ⟨f, t, here, fits, -, eq⟩
  · rw [same]
    exact ⟨.refl known, apart⟩
  · rw [eq]
    refine ⟨rests_turn known here apart fits, fun g there fresh => ?_⟩
    rw [fetch_turn_self here, Option.some.injEq] at there
    subst there
    exact absurd fresh fits.goes.not_fresh

theorem rests_poll (supply : Supply) {n : Nat} (known : k.Known key) (apart : k.Apart key n) :
    Rests key k (k.poll supply n) := by
  obtain ⟨first, apart⟩ := rests_advance supply known apart
  obtain ⟨second, apart⟩ := rests_advance supply first.known apart
  obtain ⟨third, -⟩ := rests_advance supply second.known apart
  exact (first.trans second).trans third

theorem rests_present (supply : Supply) (known : k.Known key) {ticket : Ticket}
    (apart : ∀ n epoch, ticket = .fetch n epoch → k.Apart key n) :
    Rests key k (k.present supply ticket).1 := by
  cases ticket with
  | ready outcome => exact .refl known
  | fetch n epoch => exact rests_poll supply known (apart n epoch rfl)
  | call n epoch => exact ⟨known, rfl⟩

/-- A demand opens no fetch for a key that is known. -/
theorem rests_demand (settled : k.Settled) (known : k.Known key) (x : Demand) :
    Rests key k (k.demand x).1 ∧ ∀ n, (k.demand x).1.Apart key n := by
  cases x with
  | gloss d fileId =>
    rcases Broker.resolve_cases d fileId k.broker with ⟨-, eq⟩ | ⟨-, ⟨text, -, eq⟩ |
      ⟨-, n, -, eq⟩ | ⟨absent, -, eq⟩⟩
    · simp only [demand, resolve, eq]
      exact ⟨.refl known, settled.apart key⟩
    · simp only [demand, resolve, eq]
      exact ⟨⟨known, rfl⟩, settled.apart key⟩
    · simp only [demand, resolve, eq]
      exact ⟨⟨known, rfl⟩, settled.apart key⟩
    · simp only [demand, resolve, eq]
      refine ⟨⟨known, rfl⟩, fun n f there fresh => ?_⟩
      rcases fetch_open_cases (k := { k with broker := k.broker.load fileId }) there with
        old | ⟨-, rfl⟩
      · exact absurd fresh (settled n f old)
      · intro own
        have known : (k.broker.get? d).isSome := by
          rw [← own] at known
          exact known
        rw [absent] at known
        cases known
  | detail d fileId current =>
    have kept : (k.broker.sayMore d fileId current).1.fetches = k.broker.fetches ∧
        (k.broker.sayMore d fileId current).1.entries = k.broker.entries := by
      unfold Broker.sayMore
      split <;> exact ⟨rfl, rfl⟩
    refine ⟨⟨?_, ?_⟩, fun n f there => settled.apart key n f (kept.1 ▸ there)⟩
    · show (Table.get? (k.broker.sayMore d fileId current).1.entries key).isSome
      rw [kept.2]
      exact known
    · show (k.slips ++ _).filter _ = _
      refine (List.filter_append ..).trans (List.append_right_eq_self.mpr ?_)
      rw [List.filter_eq_nil_iff]
      intro s mem
      obtain ⟨inquiry, -, rfl⟩ := List.mem_map.mp mem
      simp

end Rests
end Books

/-! ## The same along a run -/

namespace Ledger

theorem rests_step {key : String} {l : Ledger} (settled : l.books.Settled)
    (known : l.books.Known key) {event : Event} (stays : event.isSwitch = false) :
    Books.Rests key l.books (l.step event).books := by
  rcases l.books_step_cases event with ⟨fileId, rfl, -⟩ | ⟨x, -, eq⟩ | ⟨-, -, ticket, eq⟩
  · cases stays
  · rw [eq]
    obtain ⟨rests, apart⟩ := Books.rests_demand settled known x
    exact rests.trans (Books.rests_present _ rests.known fun n _ _ => apart n)
  · rw [eq]
    exact Books.rests_present _ known fun n _ _ => settled.apart key n

/-- Nothing is asked for a key that is known before another file is loaded. -/
theorem rests_run {key : String} (events more : List Event)
    (known : (run events).books.Known key) (stays : ∀ event ∈ more, event.isSwitch = false) :
    Books.Rests key (run events).books (run (events ++ more)).books := by
  induction more using List.reverseRecOn with
  | nil =>
    rw [List.append_nil]
    exact .refl known
  | append_singleton more event ih =>
    have rests := ih fun e mem => stays e (List.mem_append_left _ mem)
    rw [← List.append_assoc, run_snoc]
    exact rests.trans (rests_step (sound_run _).settled rests.known (stays event (by simp)))

end Ledger
end CodeGloss
