import CodeGloss.Proofs.Broker.Sharing

/-!
# What a poll touches

A fetch that is polled may change its own stage, the known texts, and the place of its own key in
the table of the fetches that are under way.  Nothing else changes: the other fetches stay as they
are, and so do the places of the other keys.  And a fetch of an earlier epoch changes neither of the
two tables (`Books.Advanced`).

Of the known texts more can be said when the fetch comes to nothing.  Then it has made known the
annotations of its own list, if it has come that far, and nothing besides (`Books.Adopts`).
-/

namespace CodeGloss

open Service (Answer Inquiry)

namespace Books

/-! ## One fetch at a time -/

/-- Whether the books may have become others while the fetch `n`, for the key `own` and opened in
the epoch `made`, was polled. -/
structure Advanced (n : Nat) (own : String) (made : Nat) (k k' : Books) : Prop where
  grows : k.Grows k'
  epoch : k'.broker.epoch = k.broker.epoch
  /-- The other fetches stay as they are. -/
  others : ∀ m, n ≠ m → k'.broker.fetches[m]? = k.broker.fetches[m]?
  /-- The fetches that are under way for other keys stay so, -/
  apart : ∀ key, key ≠ own →
    Table.get? k'.broker.inFlight key = Table.get? k.broker.inFlight key
  /-- and the one for this key stays so or is none any more. -/
  own : Table.get? k'.broker.inFlight own = Table.get? k.broker.inFlight own ∨
    Table.get? k'.broker.inFlight own = none
  /-- A fetch of an earlier epoch touches no table. -/
  past : made ≠ k.broker.epoch →
    k'.broker.entries = k.broker.entries ∧ k'.broker.inFlight = k.broker.inFlight

section Advanced

variable {n : Nat} {own : String} {made : Nat} {k k' k'' : Books}

theorem Advanced.refl : Advanced n own made k k where
  grows := .refl k
  epoch := rfl
  others _ _ := rfl
  apart _ _ := rfl
  own := Or.inl rfl
  past _ := ⟨rfl, rfl⟩

theorem Advanced.trans (first : Advanced n own made k k') (second : Advanced n own made k' k'') :
    Advanced n own made k k'' where
  grows := first.grows.trans second.grows
  epoch := second.epoch.trans first.epoch
  others m other := (second.others m other).trans (first.others m other)
  apart key other := (second.apart key other).trans (first.apart key other)
  own := by
    rcases second.own with same | gone
    · rw [same]
      exact first.own
    · exact Or.inr gone
  past earlier := by
    obtain ⟨entries, in_flight⟩ := first.past earlier
    obtain ⟨entries', in_flight'⟩ := second.past (first.epoch ▸ earlier)
    exact ⟨entries'.trans entries, in_flight'.trans in_flight⟩

/-- What is under way afterwards was so before. -/
theorem Advanced.of_in_flight (polled : Advanced n own made k k') {key : String} {m : Nat}
    (going : Table.get? k'.broker.inFlight key = some m) :
    Table.get? k.broker.inFlight key = some m := by
  by_cases same : key = own
  · subst same
    rcases polled.own with eq | gone
    · rw [← eq, going]
    · rw [going] at gone
      cases gone
  · rw [← polled.apart key same, going]

theorem advanced_turn {f : Fetch} {t : Turn} (here : k.broker.fetches[n]? = some f)
    (fits : t.Fits f k) : Advanced n f.key f.epoch k (k.turn n f t) where
  grows := k.grows_turn here fits
  epoch := rfl
  others m other := fetch_turn_ne other
  apart key other := by
    simp only [turn]
    split
    · rw [Table.get?_erase, if_neg other]
    · rfl
  own := by
    simp only [turn]
    split
    · rw [Table.get?_erase, if_pos rfl]
      exact Or.inr rfl
    · exact Or.inl rfl
  past earlier := by
    have apart : k.broker.epoch ≠ f.epoch := Ne.symm earlier
    refine ⟨?_, ?_⟩
    · obtain ⟨taken, asked, stage, entries⟩ := t
      cases fits.takes with
      | nothing fresh => rfl
      | answer awaited a => exact if_neg apart
    · exact if_neg fun ends => apart ends.2

theorem advanced_advance (supply : Supply) {f : Fetch} (here : k.broker.fetches[n]? = some f) :
    Advanced n f.key f.epoch k (k.advance supply n) := by
  rcases advance_cases supply n k with ⟨-, same⟩ | ⟨g, t, there, fits, -, eq⟩
  · rw [same]
    exact .refl
  · rw [here, Option.some.injEq] at there
    subst there
    rw [eq]
    exact advanced_turn here fits

theorem advanced_poll (supply : Supply) {f : Fetch} (here : k.broker.fetches[n]? = some f) :
    Advanced n f.key f.epoch k (k.poll supply n) := by
  have first := advanced_advance supply here
  obtain ⟨g, there, key, -, epoch, -⟩ := first.grows.fetch here
  have second := advanced_advance supply there
  obtain ⟨g', there', key', -, epoch', -⟩ := second.grows.fetch there
  have third := advanced_advance supply there'
  rw [key', epoch'] at third
  rw [key, epoch] at second third
  exact (first.trans second).trans third

/-- A fetch that is not there is not polled. -/
theorem poll_of_no_fetch (supply : Supply) (none_ : k.broker.fetches[n]? = none) :
    k.poll supply n = k :=
  poll_of_idle fun f here => by
    rw [none_] at here
    cases here

/-- A poll moves only the fetch that is polled, -/
theorem fetch_poll_ne (supply : Supply) {m : Nat} (other : n ≠ m) :
    (k.poll supply n).broker.fetches[m]? = k.broker.fetches[m]? := by
  cases here : k.broker.fetches[n]? with
  | none => rw [poll_of_no_fetch supply here]
  | some f => exact (advanced_poll supply here).others m other

/-- and puts none among those that are under way. -/
theorem in_flight_of_poll (supply : Supply) {key : String} {m : Nat}
    (going : Table.get? (k.poll supply n).broker.inFlight key = some m) :
    Table.get? k.broker.inFlight key = some m := by
  cases here : k.broker.fetches[n]? with
  | none => rwa [poll_of_no_fetch supply here] at going
  | some f => exact (advanced_poll supply here).of_in_flight going

/-- A fetch without an outcome is not over. -/
theorem isOver_of_outcome? {f : Fetch} (here : k.broker.fetches[n]? = some f)
    (going : k.broker.outcome? n = none) : f.stage.isOver = false := by
  cases stage : f.stage with
  | finished outcome =>
    simp only [Broker.outcome?, here, Option.map_some, stage] at going
    cases going
  | _ => rfl

/-- A fetch of the current epoch that comes to its end in a poll is under way no longer. -/
theorem Sound.gone_of_outcome? (h : k.Sound) (supply : Supply) {f : Fetch}
    (here : k.broker.fetches[n]? = some f) (current : f.epoch = k.broker.epoch)
    (going : k.broker.outcome? n = none) {outcome : Resolution.Outcome}
    (ended : (k.poll supply n).broker.outcome? n = some outcome) :
    Table.get? (k.poll supply n).broker.inFlight f.key = none := by
  have polled := advanced_poll supply here
  have started := isOver_of_outcome? here going
  cases still : Table.get? (k.poll supply n).broker.inFlight f.key with
  | none => rfl
  | some m =>
    have before := polled.of_in_flight still
    rw [(h.under_way f.key n).mpr ⟨f, here, rfl, current, started⟩, Option.some.injEq] at before
    subst before
    obtain ⟨g, there, -, -, open_⟩ := ((h.poll supply n).under_way f.key n).mp still
    rw [stage_of_outcome? there ended] at open_
    cases open_

/-- A fetch that has yet to make its first step asks for the list of its file. -/
theorem calls_poll_of_fresh (h : k.Sound) (supply : Supply) {f : Fetch}
    (here : k.broker.fetches[n]? = some f) (fresh : f.stage = .fresh) :
    ∃ rest, (k.poll supply n).broker.calls = k.broker.calls ++ .list f.fileId :: rest := by
  have first : (k.advance supply n).broker.calls = k.broker.calls ++ [.list f.fileId] := by
    rw [broker_advance]
    simp only [Broker.advance, here, fresh]
    rfl
  have grows : (k.advance supply n).Grows (k.poll supply n) :=
    (grows_advance _ supply n).trans (grows_advance _ supply n)
  obtain ⟨more, slips⟩ := grows.slips
  refine ⟨more.map Slip.inquiry, ?_⟩
  rw [← (h.poll supply n).logged, ← slips, List.map_append, (h.advance supply n).logged, first,
    List.append_assoc, List.singleton_append]

end Advanced

/-! ## What a fetch that comes to nothing makes known -/

/-- Whether, from one moment to another, nothing has become known but the annotations of the list
that the fetch `n` had asked for and whose answer was taken in between. -/
def Adopts (n : Nat) (k k' : Books) : Prop :=
  k'.broker.entries = k.broker.entries ∨
    ∃ f call a glosses, k'.broker.fetches[n]? = some f ∧ f.epoch = k'.broker.epoch ∧
      (call, a) ∈ k'.receipts ∧ call ∉ k.receipts.map Prod.fst ∧
      k'.slips[call]? = some ⟨.list f.fileId, some f.key, f.epoch⟩ ∧
      a.toGlosses = .ok glosses ∧ k'.broker.entries = (k.broker.adopt glosses).entries

section Adopts

variable {n : Nat} {k k' k'' : Books}

/-- The number of an answer that was taken stays on the receipts. -/
theorem Grows.taken (grows : k.Grows k') {call : Nat} (taken : call ∈ k.receipts.map Prod.fst) :
    call ∈ k'.receipts.map Prod.fst :=
  (grows.receipts.map Prod.fst).subset taken

/-- What becomes known later becomes known from here if nothing does until then, -/
theorem Adopts.of_entries_eq (grows : k.Grows k')
    (same : k'.broker.entries = k.broker.entries) (adopts : Adopts n k' k'') :
    Adopts n k k'' := by
  refine adopts.imp (fun eq => eq.trans same) ?_
  rintro ⟨f, call, a, glosses, here, current, taken, new, slip, said, eq⟩
  refine ⟨f, call, a, glosses, here, current, taken, fun old => new (grows.taken old), slip, said,
    ?_⟩
  rw [eq, Broker.adopt, Broker.adopt, same]

/-- and what has become known has become so until later if nothing does from then on. -/
theorem Adopts.entries_eq (adopts : Adopts n k k') (grows : k'.Grows k'')
    (epoch : k''.broker.epoch = k'.broker.epoch)
    (same : k''.broker.entries = k'.broker.entries) : Adopts n k k'' := by
  refine adopts.imp same.trans ?_
  rintro ⟨f, call, a, glosses, here, current, taken, new, slip, said, eq⟩
  obtain ⟨g, there, key, file, made, -⟩ := grows.fetch here
  refine ⟨g, call, a, glosses, there, ?_, grows.receipts.subset taken, new, ?_, said,
    same.trans eq⟩
  · rw [made, current, epoch]
  · rw [key, file, made]
    exact grows.slip slip

/-- A fetch that is ended has the outcome. -/
theorem outcome?_finish {b : Broker} {f : Fetch} (here : b.fetches[n]? = some f)
    (outcome : Resolution.Outcome) : (b.finish n f outcome).outcome? n = some outcome := by
  have moved : (b.moveFetch n (.finished outcome)).fetches[n]? =
      some { f with stage := .finished outcome } := by
    rw [Broker.moveFetch, List.getElem?_modify_eq, here]
    rfl
  simp only [Broker.finish]
  split <;> simp only [Broker.outcome?, moved, Option.map_some]

/-- A text that comes in ends the search with a resolution. -/
theorem outcome?_of_text {supply : Supply} {f : Fetch} (here : k.broker.fetches[n]? = some f)
    {call : Nat} (asked : f.stage = .generating call) {a : Answer}
    (given : k.broker.answer? supply call = some a) {text : String} (said : a.toText = .ok text) :
    ∃ r, (k.advance supply n).broker.outcome? n = some (.ok r) := by
  have step : (k.advance supply n).broker = k.broker.takeText n f text := by
    rw [broker_advance]
    simp only [Broker.advance, here, asked, given, Option.map_some, said]
  rw [step, Broker.takeText]
  split
  · refine ⟨.generated text, outcome?_finish ?_ _⟩
    exact here
  · exact ⟨.stale, outcome?_finish here _⟩

/-- What a turn does to the known texts. -/
theorem Turn.Takes.entries_cases {f : Fetch} {taken : Option (Nat × Answer)}
    {entries : Table String} (takes : Turn.Takes f k taken entries) :
    entries = k.broker.entries ∨
      ∃ call inquiry a, taken = some (call, a) ∧ f.awaited? = some (call, inquiry) ∧
        k.broker.epoch = f.epoch ∧ entries = inquiry.credit f.key a k.broker.entries := by
  cases takes with
  | nothing fresh => exact Or.inl rfl
  | @answer call inquiry awaited a =>
    unfold credited
    split
    next current => exact Or.inr ⟨call, inquiry, a, rfl, awaited, current, rfl⟩
    next => exact Or.inl rfl

/-- A fetch that has taken its list asks for a new annotation at most. -/
theorem quiet_turn {f : Fetch} {t : Turn} (here : k.broker.fetches[n]? = some f)
    (goes : Turn.Goes f k t.entries t.asked t.stage) {call : Nat}
    (listed : f.stage = .listing call) : (k.turn n f t).Quiet n := by
  intro g there
  rw [fetch_turn_self here, Option.some.injEq] at there
  subst there
  refine ⟨goes.not_fresh, fun c => ?_⟩
  show t.stage ≠ _
  generalize t.asked = asked, t.stage = stage at goes
  cases goes with
  | lists fresh =>
    rw [listed] at fresh
    cases fresh
  | generates listed same absent => exact Fetch.Stage.noConfusion
  | ends outcome known timely => exact Fetch.Stage.noConfusion

/-- A step of a fetch makes nothing known, or makes its list known and has nothing to ask after that
but for a new annotation, or ends the search with a resolution. -/
theorem adopts_advance (h : k.Sound) (supply : Supply) (n : Nat) :
    (k.advance supply n).broker.entries = k.broker.entries ∨
      (¬k.Quiet n ∧ Adopts n k (k.advance supply n) ∧ (k.advance supply n).Quiet n) ∨
      ∃ r, (k.advance supply n).broker.outcome? n = some (.ok r) := by
  rcases advance_cases supply n k with ⟨-, same⟩ | ⟨f, t, here, fits, given, eq⟩
  · exact Or.inl (by rw [same])
  rcases fits.takes.entries_cases with
    same | ⟨call, inquiry, a, taken, awaited, current, credited⟩
  · left
    rw [eq]
    exact same
  have slip := h.awaits here awaited
  cases began : f.stage with
  | listing c =>
    simp only [Fetch.awaited?, began, Option.some.injEq, Prod.mk.injEq] at awaited
    obtain ⟨rfl, rfl⟩ := awaited
    cases said : a.toGlosses with
    | error failure =>
      left
      rw [eq]
      exact credited.trans (by simp only [Inquiry.credit, said])
    | ok glosses =>
      refine Or.inr (Or.inl ⟨fun quiet => (quiet f here).2 c began, ?_⟩)
      rw [eq]
      refine ⟨Or.inr ⟨_, c, a, glosses, fetch_turn_self here, current.symm,
        mem_receipts_turn.mpr (Or.inr taken), slip.2, slip_turn_of_slip slip.1, said, ?_⟩,
        quiet_turn here fits.goes began⟩
      exact credited.trans (by simp only [Inquiry.credit, said, Broker.adopt])
  | generating c =>
    simp only [Fetch.awaited?, began, Option.some.injEq, Prod.mk.injEq] at awaited
    obtain ⟨rfl, rfl⟩ := awaited
    cases said : a.toText with
    | error failure =>
      left
      rw [eq]
      exact credited.trans (by simp only [Inquiry.credit, said])
    | ok text => exact Or.inr (Or.inr (outcome?_of_text here began (given _ taken) said))
  | _ =>
    simp only [Fetch.awaited?, began] at awaited
    cases awaited

/-- One more step of a fetch that does not come to a resolution by it. -/
theorem Adopts.advance (adopts : Adopts n k k') (grows : k.Grows k') (h : k'.Sound)
    (so_far : k'.broker.entries = k.broker.entries ∨ k'.Quiet n) (supply : Supply)
    (failed : ∀ r, (k'.advance supply n).broker.outcome? n ≠ some (.ok r)) :
    Adopts n k (k'.advance supply n) ∧
      ((k'.advance supply n).broker.entries = k.broker.entries ∨
        (k'.advance supply n).Quiet n) := by
  have later := k'.grows_advance supply n
  have epoch := k'.epoch_advance supply n
  rcases adopts_advance h supply n with same | ⟨asks, next, quiet⟩ | ⟨r, ended⟩
  · refine ⟨adopts.entries_eq later epoch same, ?_⟩
    exact so_far.imp same.trans fun quiet => (quiet_advance quiet supply).2
  · rcases so_far with so_far | so_far
    · exact ⟨next.of_entries_eq grows so_far, Or.inr quiet⟩
    · exact absurd so_far asks
  · exact absurd ended (failed r)

/-- **A fetch that comes to no resolution makes known its own list at most.** -/
theorem adopts_poll (h : k.Sound) (supply : Supply) (n : Nat)
    (failed : ∀ r, (k.poll supply n).broker.outcome? n ≠ some (.ok r)) :
    Adopts n k (k.poll supply n) := by
  have grows := k.grows_advance supply n
  have grows' := grows_advance (k.advance supply n) supply n
  have grows'' := grows_advance ((k.advance supply n).advance supply n) supply n
  have none_ : Adopts n k k := Or.inl rfl
  obtain ⟨first, so_far⟩ := none_.advance (.refl k) h (Or.inl rfl) supply
    fun r ended => failed r ((grows'.trans grows'').outcome? ended)
  obtain ⟨second, so_far⟩ := first.advance grows (h.advance supply n) so_far supply
    fun r ended => failed r (grows''.outcome? ended)
  have sound := (h.advance supply n).advance supply n
  exact (second.advance (grows.trans grows') sound so_far supply failed).1

end Adopts

end Books
end CodeGloss
