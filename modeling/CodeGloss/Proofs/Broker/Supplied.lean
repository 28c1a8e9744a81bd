import CodeGloss.Proofs.Broker.Polled

/-!
# Who supplied a text

A text comes to be known in one of two ways: it stood in a list, whichever fetch had asked for the
list, or it was made for its key.  The second way ends the one fetch for the key.  So as long as a
fetch for a key is under way, and also when it has come to nothing, a text that is known for the key
stood in a list (`Books.Orderly.supplied`, `Books.Vacant`).

And a fetch that has come to a resolution has left a text (`Books.Orderly.kept`), whatever became of
the texts in the meantime, as long as the file was not replaced.
-/

namespace CodeGloss

open Service (Answer Inquiry)

namespace Books

/-! ## Lists of the current epoch -/

/-- Whether a list was taken in the current epoch that has an annotation for the key. -/
def Listed (key : String) (k : Books) : Prop :=
  ∃ receipt ∈ k.receipts, ∃ slip fileId glosses text, k.slips[receipt.1]? = some slip ∧
    slip.key.isSome ∧ slip.epoch = k.broker.epoch ∧ slip.inquiry = .list fileId ∧
    receipt.2.toGlosses = .ok glosses ∧ ⟨key, text⟩ ∈ glosses

/-- A list stays one of the epoch until a file is replaced. -/
theorem Listed.grows {key : String} {k k' : Books} (listed : k.Listed key) (grows : k.Grows k')
    (epoch : k'.broker.epoch = k.broker.epoch) : k'.Listed key := by
  obtain ⟨receipt, mem, slip, fileId, glosses, text, here, keyed, current, rest⟩ := listed
  exact ⟨receipt, grows.receipts.subset mem, slip, fileId, glosses, text, grows.slip here, keyed,
    current.trans epoch.symm, rest⟩

/-- What has become known by a list stood in a list. -/
theorem Adopts.known_or_listed {n : Nat} {key : String} {k k' : Books} (adopts : Adopts n k k')
    (known : k'.Known key) : k.Known key ∨ k'.Listed key := by
  rcases adopts with same | ⟨f, call, a, glosses, -, current, taken, -, slip, said, adopted⟩
  · left
    rwa [Known, same] at known
  · obtain ⟨text, known⟩ := Option.isSome_iff_exists.mp known
    have credited : Table.get? ((Inquiry.list f.fileId).credit f.key a k.broker.entries) key =
        some text := by
      rw [adopted] at known
      simp only [Inquiry.credit, said]
      exact known
    have told : Table.get? k.broker.entries key = some text ∨
        Tells ⟨.list f.fileId, some f.key, f.epoch⟩ a key text := tells_of_get?_credit credited
    rcases told with before | told
    · exact Or.inl (Option.isSome_iff_exists.mpr ⟨text, before⟩)
    · rcases told with ⟨fileId, told, lists, said, mem⟩ | ⟨fileId, code, asks, -⟩
      · exact Or.inr ⟨(call, a), taken, _, fileId, told, text, slip, rfl, current, lists, said, mem⟩
      · cases asks

section Turn

variable {k : Books} {n : Nat} {f : Fetch} {t : Turn} (h : k.Sound)
  (here : k.broker.fetches[n]? = some f) (fits : t.Fits f k)
include h here fits

/-- What is known after a turn was known before, or stood in the list that was taken, or was made
for the fetch. -/
theorem known_turn {key : String} (known : (k.turn n f t).Known key) :
    k.Known key ∨ (k.turn n f t).Listed key ∨
      (f.key = key ∧ f.epoch = k.broker.epoch ∧ ∃ call, f.stage = .generating call) := by
  have known : (Table.get? t.entries key).isSome := known
  rcases fits.takes.entries_cases with same | ⟨call, inquiry, a, taken, awaited, current, credited⟩
  · left
    rwa [same] at known
  · obtain ⟨text, known⟩ := Option.isSome_iff_exists.mp known
    rw [credited] at known
    have told : Table.get? k.broker.entries key = some text ∨
        Tells ⟨inquiry, some f.key, f.epoch⟩ a key text := tells_of_get?_credit known
    rcases told with before | told
    · exact Or.inl (Option.isSome_iff_exists.mpr ⟨text, before⟩)
    · right
      rcases told with ⟨fileId, glosses, lists, said, mem⟩ | ⟨fileId, code, asks, own, -⟩
      · exact Or.inl ⟨(call, a), mem_receipts_turn.mpr (Or.inr taken), _, fileId, glosses, text,
          slip_turn_of_slip (h.awaits here awaited).1, rfl, current.symm, lists, said, mem⟩
      · refine Or.inr ⟨Option.some.inj own, current.symm, ?_⟩
        have asks : inquiry = .generate fileId code := asks
        rw [asks, Fetch.awaited?] at awaited
        split at awaited
        next => cases awaited
        next c generating => exact ⟨c, generating⟩
        next => cases awaited

omit h here in
/-- A fetch that waits for a new annotation ends when the answer is taken. -/
theorem isOver_of_generating {call : Nat} (generating : f.stage = .generating call) :
    t.stage.isOver = true := by
  have goes := fits.goes
  generalize t.asked = asked, t.stage = stage at goes
  cases goes with
  | lists fresh =>
    rw [generating] at fresh
    cases fresh
  | generates listed same absent =>
    rw [generating] at listed
    cases listed
  | ends outcome known timely => rfl

end Turn

/-! ## Fetches and what they leave -/

/-- How the known texts and the fetches of the current epoch belong together. -/
structure Orderly (k : Books) : Prop where
  /-- A fetch that has come to a resolution has left a text. -/
  kept : ∀ {n : Nat} {f : Fetch} {r : Resolution}, k.broker.fetches[n]? = some f →
    f.epoch = k.broker.epoch → f.stage = .finished (.ok r) → k.Known f.key
  /-- A text that is known while a fetch for its key is under way stood in a list. -/
  supplied : ∀ {key : String} {n : Nat}, k.Known key →
    Table.get? k.broker.inFlight key = some n → k.Listed key

theorem orderly_empty : ({} : Books).Orderly where
  kept := by simp
  supplied := by simp

section Orderly

variable {k : Books} (orderly : k.Orderly)
include orderly

theorem Orderly.turn (h : k.Sound) {n : Nat} {f : Fetch} {t : Turn}
    (here : k.broker.fetches[n]? = some f) (fits : t.Fits f k) : (k.turn n f t).Orderly where
  kept {m g r} there current ended := by
    rcases fetch_turn_cases here there with ⟨rfl, rfl⟩ | ⟨-, old⟩
    · obtain ⟨taken, asked, stage, entries⟩ := t
      cases ended
      cases fits.goes with
      | ends _ known timely =>
        -- In its own epoch the fetch does not find its file replaced, so there is a text.
        have told : r.text? ≠ none := by
          rw [Ne, Resolution.text?_eq_none_iff]
          intro stale
          cases r with
          | stale => exact timely current.symm rfl
          | _ => cases stale
        obtain ⟨text, told⟩ := Option.ne_none_iff_exists'.mp told
        exact Option.isSome_iff_exists.mpr ⟨text, (known r text rfl told).2⟩
    · exact (orderly.kept old current ended).takes fits.takes
  supplied {key m} known going := by
    have polled := advanced_turn here fits
    rcases known_turn h here fits known with before | listed | ⟨rfl, current, _, generating⟩
    · exact (orderly.supplied before (polled.of_in_flight going)).grows polled.grows polled.epoch
    · exact listed
    · have erased : (k.turn n f t).broker.inFlight = Table.erase k.broker.inFlight f.key :=
        if_pos ⟨isOver_of_generating fits generating, current.symm⟩
      rw [erased, Table.get?_erase, if_pos rfl] at going
      cases going

theorem Orderly.advance (h : k.Sound) (supply : Supply) (n : Nat) :
    (k.advance supply n).Orderly := by
  rcases advance_cases supply n k with ⟨-, same⟩ | ⟨f, t, here, fits, -, eq⟩
  · rw [same]
    exact orderly
  · rw [eq]
    exact orderly.turn h here fits

theorem Orderly.present (h : k.Sound) (supply : Supply) (ticket : Ticket) :
    (k.present supply ticket).1.Orderly := by
  cases ticket with
  | ready outcome => exact orderly
  | fetch n epoch =>
    have first := h.advance supply n
    exact ((orderly.advance h supply n).advance first supply n).advance (first.advance supply n)
      supply n
  | call n epoch =>
    exact ⟨orderly.kept, fun known going => (orderly.supplied known going).grows
      (k.grows_present supply (.call n epoch)) rfl⟩

omit orderly in
/-- Everything that a demand does to the known texts and the fetches: nothing, or it is for a key of
the loaded file that is neither known nor looked for, and a fetch is opened. -/
theorem demand_cases (k : Books) (x : Demand) :
    ((k.demand x).1.broker.entries = k.broker.entries ∧
        (k.demand x).1.broker.inFlight = k.broker.inFlight ∧
        (k.demand x).1.broker.fetches = k.broker.fetches) ∨
      ∃ d fileId, x = .gloss d fileId ∧ k.broker.isElsewhere fileId = false ∧
        Table.get? k.broker.entries d.glossKey = none ∧
        Table.get? k.broker.inFlight d.glossKey = none ∧
        k.demand x = ({ k with broker := (k.broker.load fileId).openFetch d fileId },
          .fetch k.broker.fetches.length k.broker.epoch) := by
  cases x with
  | gloss d fileId =>
    rcases Broker.resolve_cases d fileId k.broker with ⟨-, eq⟩ | ⟨here, ⟨text, -, eq⟩ |
      ⟨-, n, -, eq⟩ | ⟨absent, free, eq⟩⟩
    · left
      simp only [demand, resolve, eq, and_self]
    · left
      simp only [demand, resolve, eq]
      exact ⟨rfl, rfl, rfl⟩
    · left
      simp only [demand, resolve, eq]
      exact ⟨rfl, rfl, rfl⟩
    · right
      refine ⟨d, fileId, rfl, here, absent, free, ?_⟩
      simp only [demand, resolve, eq]
  | detail d fileId current =>
    left
    show (k.broker.sayMore d fileId current).1.entries = _ ∧ _
    simp only [demand, sayMore, enter]
    unfold Broker.sayMore
    split <;> exact ⟨rfl, rfl, rfl⟩

theorem Orderly.demand (x : Demand) : (k.demand x).1.Orderly := by
  have grows := k.grows_demand x
  have epoch := k.epoch_demand x
  rcases k.demand_cases x with ⟨entries, in_flight, fetches⟩ | ⟨d, fileId, -, -, absent, -, eq⟩
  · refine ⟨fun {n f r} there current ended => ?_, fun {key n} known going => ?_⟩
    · rw [fetches] at there
      rw [epoch] at current
      rw [Known, entries]
      exact orderly.kept there current ended
    · rw [Known, entries] at known
      rw [in_flight] at going
      exact (orderly.supplied known going).grows grows epoch
  · rw [eq] at grows ⊢
    refine ⟨fun {n f r} there current ended => ?_, fun {key n} known going => ?_⟩
    · rcases fetch_open_cases (k := { k with broker := k.broker.load fileId }) there with
        old | ⟨-, rfl⟩
      · exact orderly.kept old current ended
      · cases ended
    · have going : Table.get? (Table.insert d.glossKey k.broker.fetches.length k.broker.inFlight)
          key = some n := going
      rw [Table.get?_insert] at going
      by_cases own : key = d.glossKey
      · subst own
        have known : (Table.get? k.broker.entries d.glossKey).isSome := known
        rw [absent] at known
        cases known
      · rw [if_neg own] at going
        exact (orderly.supplied known going).grows grows rfl

omit orderly in
/-- Nothing is known and nothing is looked for when a file has been replaced. -/
theorem Sound.orderly_switchFile (h : k.Sound) (fileId : Option String) :
    (k.switchFile fileId).Orderly where
  kept there current _ := by
    have := h.fetch_epoch there
    have : _ = k.broker.epoch + 1 := current
    omega
  supplied known _ := by cases known

end Orderly

/-! ## Keys that nothing is under way for -/

/-- Whether nothing is under way for a key, and a text for it, if one is known, stood in a list. -/
structure Vacant (key : String) (k : Books) : Prop where
  free : Table.get? k.broker.inFlight key = none
  supplied : k.Known key → k.Listed key

section Vacant

variable {key : String} {k : Books} (vacant : k.Vacant key)
include vacant

theorem Vacant.advance (h : k.Sound) (supply : Supply) (n : Nat) :
    (k.advance supply n).Vacant key := by
  rcases advance_cases supply n k with ⟨-, same⟩ | ⟨f, t, here, fits, -, eq⟩
  · rw [same]
    exact vacant
  · rw [eq]
    have polled := advanced_turn here fits
    refine ⟨?_, fun known => ?_⟩
    · refine Option.eq_none_iff_forall_ne_some.mpr fun m going => ?_
      have going := polled.of_in_flight going
      rw [vacant.free] at going
      cases going
    · rcases known_turn h here fits known with before | listed | ⟨own, current, -⟩
      · exact (vacant.supplied before).grows polled.grows polled.epoch
      · exact listed
      · -- A text is made for a key by the fetch that is under way for it.
        have under := (h.under_way key n).mpr ⟨f, here, own, current, fits.takes.going⟩
        rw [vacant.free] at under
        cases under

theorem Vacant.present (h : k.Sound) (supply : Supply) (ticket : Ticket) :
    (k.present supply ticket).1.Vacant key := by
  cases ticket with
  | ready outcome => exact vacant
  | fetch n epoch =>
    have first := h.advance supply n
    exact ((vacant.advance h supply n).advance first supply n).advance (first.advance supply n)
      supply n
  | call n epoch =>
    exact ⟨vacant.free, fun known =>
      (vacant.supplied known).grows (k.grows_present supply (.call n epoch)) rfl⟩

/-- It takes a demand for the key, made of its file, to open a fetch for it. -/
theorem Vacant.demand {x : Demand} (other : ∀ d fileId, x = .gloss d fileId → d.glossKey = key →
    k.broker.isElsewhere fileId = true) : (k.demand x).1.Vacant key := by
  have grows := k.grows_demand x
  have epoch := k.epoch_demand x
  rcases k.demand_cases x with ⟨entries, in_flight, -⟩ | ⟨d, fileId, for_, here, -, -, eq⟩
  · refine ⟨by rw [in_flight]; exact vacant.free, fun known => ?_⟩
    rw [Known, entries] at known
    exact (vacant.supplied known).grows grows epoch
  · have apart : key ≠ d.glossKey := by
      rintro rfl
      rw [other d fileId for_ rfl] at here
      cases here
    rw [eq] at grows ⊢
    refine ⟨?_, fun known => (vacant.supplied known).grows grows rfl⟩
    show Table.get? (Table.insert d.glossKey k.broker.fetches.length k.broker.inFlight) key = none
    rw [Table.get?_insert, if_neg apart]
    exact vacant.free

omit vacant in
theorem vacant_switchFile (fileId : Option String) : (k.switchFile fileId).Vacant key :=
  ⟨rfl, fun known => by cases known⟩

end Vacant

end Books

/-! ## Along a run -/

namespace Ledger

/-- **Every run keeps its books in order.** -/
theorem orderly_run (events : List Event) : (run events).books.Orderly := by
  induction events using List.reverseRecOn with
  | nil => exact Books.orderly_empty
  | append_singleton events event ih =>
    have h := (sound_run events).books
    rw [run_snoc]
    rcases (run events).books_step_cases event with ⟨fileId, -, eq⟩ | ⟨x, -, eq⟩ |
      ⟨-, -, ticket, eq⟩
    · rw [eq]
      exact h.orderly_switchFile fileId
    · rw [eq]
      exact (ih.demand x).present (h.demand x) _ _
    · rw [eq]
      exact ih.present h _ _

theorem vacant_step {events : List Event} {key : String} (vacant : (run events).books.Vacant key)
    {event : Event} (other : ∀ d fileId, event = .demand (.gloss d fileId) → d.glossKey = key →
      (run events).books.broker.isElsewhere fileId = true) :
    (run (events ++ [event])).books.Vacant key := by
  have h := (sound_run events).books
  rw [run_snoc]
  rcases (run events).books_step_cases event with ⟨fileId, -, eq⟩ | ⟨x, demanded, eq⟩ |
    ⟨-, -, ticket, eq⟩
  · rw [eq]
    exact Books.vacant_switchFile fileId
  · rw [eq]
    refine Books.Vacant.present (vacant.demand fun d fileId for_ own => ?_) (h.demand x) _ _
    exact other d fileId (by rw [demanded, for_]) own
  · rw [eq]
    exact vacant.present h _ _

/-- Nothing is looked for under a key until it is demanded of its file. -/
theorem vacant_run {events : List Event} {key : String} (vacant : (run events).books.Vacant key)
    (more : List Event)
    (other : ∀ i d fileId, more[i]? = some (.demand (.gloss d fileId)) → d.glossKey = key →
      (run (events ++ more.take i)).books.broker.isElsewhere fileId = true) :
    (run (events ++ more)).books.Vacant key := by
  induction more using List.reverseRecOn with
  | nil =>
    rw [List.append_nil]
    exact vacant
  | append_singleton more event ih =>
    rw [← List.append_assoc]
    refine vacant_step (ih fun i d fileId here own => ?_) fun d fileId demanded own => ?_
    · have lt := (List.getElem?_eq_some_iff.mp here).1
      have apart := other i d fileId ((List.getElem?_append_left lt).trans here) own
      rwa [List.take_append_of_le_length (Nat.le_of_lt lt)] at apart
    · have apart := other more.length d fileId (by rw [List.getElem?_concat_length, demanded]) own
      rwa [List.take_left] at apart

end Ledger
end CodeGloss
