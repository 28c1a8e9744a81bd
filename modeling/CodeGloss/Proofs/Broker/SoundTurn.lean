import CodeGloss.Proofs.Broker.Sound

/-!
# Turns keep the books sound

One statement for each part of `Books.Sound`, and from them `Books.Sound.turn`: what a turn makes of
sound books is sound.  The other fetches, slips and receipts are as they were, so each statement is
about the fetch that makes the turn, its new inquiry, and the answer that it takes.
-/

namespace CodeGloss

open Service (Answer Inquiry)

namespace Books

/-! ## The books after a turn -/

section Turn

variable {k : Books} {n : Nat} {f : Fetch} {t : Turn}

theorem fetch_turn_self (here : k.broker.fetches[n]? = some f) :
    (k.turn n f t).broker.fetches[n]? = some { f with stage := t.stage } := by
  simp only [turn, List.getElem?_modify, here, if_true, Option.map_eq_map, Option.map_some]

theorem fetch_turn_ne {m : Nat} (other : n ≠ m) :
    (k.turn n f t).broker.fetches[m]? = k.broker.fetches[m]? := by
  simp only [turn, List.getElem?_modify, if_neg other, Option.map_eq_map, Option.map_id']

/-- The fetches after a turn: the one that made it, and the others as they were. -/
theorem fetch_turn_cases (here : k.broker.fetches[n]? = some f) {m : Nat} {g : Fetch}
    (there : (k.turn n f t).broker.fetches[m]? = some g) :
    (n = m ∧ g = { f with stage := t.stage }) ∨ (n ≠ m ∧ k.broker.fetches[m]? = some g) := by
  by_cases same : n = m
  · subst same
    rw [fetch_turn_self here, Option.some.injEq] at there
    exact Or.inl ⟨rfl, there.symm⟩
  · rw [fetch_turn_ne same] at there
    exact Or.inr ⟨same, there⟩

theorem slip_turn_of_slip {call : Nat} {s : Slip} (here : k.slips[call]? = some s) :
    (k.turn n f t).slips[call]? = some s := by
  unfold turn
  rw [List.getElem?_append_left (List.getElem?_eq_some_iff.mp here).1, here]

/-- The slips after a turn: those that were there, and one for the inquiry that was made. -/
theorem slip_turn_cases {call : Nat} {s : Slip} (there : (k.turn n f t).slips[call]? = some s) :
    k.slips[call]? = some s ∨
      ∃ inquiry, t.asked = some inquiry ∧ call = k.slips.length ∧
        s = ⟨inquiry, some f.key, k.broker.epoch⟩ := by
  unfold turn at there
  by_cases old : call < k.slips.length
  · rw [List.getElem?_append_left old] at there
    exact Or.inl there
  · right
    rw [List.getElem?_append_right (by omega)] at there
    cases asked : t.asked with
    | none =>
      rw [asked] at there
      exact absurd there (by simp)
    | some inquiry =>
      rw [asked] at there
      have single := List.getElem?_eq_some_iff.mp there
      simp only [Option.toList_some, List.map_cons, List.map_nil, List.length_singleton,
        List.getElem_singleton] at single
      obtain ⟨lt, eq⟩ := single
      exact ⟨inquiry, rfl, by omega, eq.symm⟩

theorem slip_turn_new {inquiry : Inquiry} (asked : t.asked = some inquiry) :
    (k.turn n f t).slips[k.slips.length]? = some ⟨inquiry, some f.key, k.broker.epoch⟩ := by
  simp only [turn, asked, Option.toList_some, List.map_cons, List.map_nil,
    List.getElem?_concat_length]

theorem mem_receipts_turn {r : Nat × Answer} :
    r ∈ (k.turn n f t).receipts ↔ r ∈ k.receipts ∨ t.taken = some r := by
  simp only [turn, List.mem_append, Option.mem_toList]

theorem mem_calls_turn {call : Nat} :
    call ∈ (k.turn n f t).receipts.map Prod.fst ↔
      call ∈ k.receipts.map Prod.fst ∨ t.taken.map Prod.fst = some call := by
  simp only [turn, List.map_append, List.mem_append]
  refine or_congr Iff.rfl ?_
  cases t.taken <;> simp [eq_comm]

/-- A fetch after a turn is a fetch before it, but for its stage. -/
theorem fetch_of_turn (here : k.broker.fetches[n]? = some f) {m : Nat} {g : Fetch}
    (there : (k.turn n f t).broker.fetches[m]? = some g) :
    ∃ g', k.broker.fetches[m]? = some g' ∧ g.key = g'.key ∧ g.epoch = g'.epoch ∧
      g.fileId = g'.fileId := by
  rcases fetch_turn_cases here there with ⟨rfl, rfl⟩ | ⟨-, old⟩
  · exact ⟨f, here, rfl, rfl, rfl⟩
  · exact ⟨g, old, rfl, rfl, rfl⟩

/-! ## What a turn that fits does -/

/-- An inquiry is made in the epoch of the fetch and about its file. -/
theorem Turn.Goes.asks {entries : Table String} {asked : Option Inquiry} {stage : Fetch.Stage}
    (goes : Turn.Goes f k entries asked stage) (h : k.Sound) (here : k.broker.fetches[n]? = some f)
    {inquiry : Inquiry} (asks : asked = some inquiry) :
    k.broker.epoch = f.epoch ∧ inquiry.fileId? = some f.fileId := by
  cases goes with
  | lists fresh =>
    cases asks
    exact ⟨(h.fresh_epoch here fresh).symm, rfl⟩
  | generates listed same absent =>
    cases asks
    exact ⟨same, rfl⟩
  | ends outcome known => cases asks

theorem Sound.nextCall (h : k.Sound) : k.broker.nextCall = k.slips.length := by
  rw [Broker.nextCall, ← h.logged, List.length_map]

/-- An answer that is at hand is one to an inquiry on a slip. -/
theorem Sound.slip_of_answer? (h : k.Sound) {supply : Supply} {call : Nat} {a : Answer}
    (given : k.broker.answer? supply call = some a) :
    ∃ s, k.slips[call]? = some s ∧ supply call s.inquiry = some a := by
  obtain ⟨inquiry, made, said⟩ := Option.bind_eq_some_iff.mp given
  rw [← h.logged, List.getElem?_map] at made
  obtain ⟨s, here, rfl⟩ := Option.map_eq_some_iff.mp made
  exact ⟨s, here, said⟩

/-! ## Each part is kept -/

section Fits

variable (h : k.Sound) (here : k.broker.fetches[n]? = some f) (fits : Turn.Fits t f k)
include h here fits

omit here fits in
theorem logged_turn : (k.turn n f t).slips.map Slip.inquiry = (k.turn n f t).broker.calls := by
  simp only [turn, List.map_append, List.map_map, h.logged, List.append_cancel_left_eq]
  exact List.map_id _

omit here fits in
theorem slip_epoch_turn : ∀ s ∈ (k.turn n f t).slips, s.epoch ≤ (k.turn n f t).broker.epoch := by
  intro s mem
  obtain ⟨call, there⟩ := List.getElem?_of_mem mem
  rcases slip_turn_cases there with old | ⟨inquiry, -, -, rfl⟩
  · exact h.slip_epoch s (List.mem_of_getElem? old)
  · exact Nat.le_refl _

theorem slip_file_turn : ∀ s ∈ (k.turn n f t).slips, s.key.isSome →
    s.epoch = (k.turn n f t).broker.epoch →
      s.inquiry.fileId?.isSome ∧ s.inquiry.fileId? = (k.turn n f t).broker.fileId := by
  intro s mem keyed current
  obtain ⟨call, there⟩ := List.getElem?_of_mem mem
  rcases slip_turn_cases there with old | ⟨inquiry, asked, -, rfl⟩
  · exact h.slip_file s (List.mem_of_getElem? old) keyed current
  · obtain ⟨same, about⟩ := fits.goes.asks h here asked
    refine ⟨by rw [about]; rfl, ?_⟩
    rw [about]
    exact (h.fetch_file here same.symm).symm

theorem receipt_lt_turn : ∀ r ∈ (k.turn n f t).receipts, r.1 < (k.turn n f t).slips.length := by
  have grows : k.slips.length ≤ (k.turn n f t).slips.length := by
    simp only [turn, List.length_append]
    omega
  intro r mem
  refine Nat.lt_of_lt_of_le ?_ grows
  rcases mem_receipts_turn.mp mem with old | taken
  · exact h.receipt_lt r old
  · have call := fits.takes.call_eq
    rw [taken] at call
    obtain ⟨a, awaited, eq⟩ := Option.map_eq_some_iff.mp call.symm
    rw [← eq]
    exact (List.getElem?_eq_some_iff.mp (h.awaits here awaited).1).1

theorem awaits_turn {m : Nat} {g : Fetch} {call : Nat} {inquiry : Inquiry}
    (there : (k.turn n f t).broker.fetches[m]? = some g)
    (awaited : g.awaited? = some (call, inquiry)) :
    (k.turn n f t).slips[call]? = some ⟨inquiry, some g.key, g.epoch⟩ ∧
      call ∉ (k.turn n f t).receipts.map Prod.fst := by
  rw [mem_calls_turn, fits.takes.call_eq]
  rcases fetch_turn_cases here there with ⟨rfl, rfl⟩ | ⟨other, old⟩
  · rw [fits.goes.awaited, h.nextCall] at awaited
    obtain ⟨asked, asks, eq⟩ := Option.map_eq_some_iff.mp awaited
    cases eq
    have current := (fits.goes.asks h here asks).1
    refine ⟨?_, ?_⟩
    · rw [slip_turn_new asks, current]
    · rintro (old | waits)
      · obtain ⟨r, mem, eq⟩ := List.mem_map.mp old
        have := h.receipt_lt r mem
        omega
      · obtain ⟨a, awaited, eq⟩ := Option.map_eq_some_iff.mp waits
        have := (List.getElem?_eq_some_iff.mp (h.awaits here awaited).1).1
        omega
  · obtain ⟨slip, not_taken⟩ := h.awaits old awaited
    refine ⟨slip_turn_of_slip slip, ?_⟩
    rintro (old' | waits)
    · exact not_taken old'
    · obtain ⟨⟨c, i⟩, awaited', rfl⟩ := Option.map_eq_some_iff.mp waits
      exact other (h.awaits_inj here old awaited' awaited)

theorem awaits_inj_turn {m m' : Nat} {g g' : Fetch} {call : Nat} {i j : Inquiry}
    (there : (k.turn n f t).broker.fetches[m]? = some g)
    (there' : (k.turn n f t).broker.fetches[m']? = some g')
    (awaited : g.awaited? = some (call, i)) (awaited' : g'.awaited? = some (call, j)) : m = m' := by
  -- The inquiry of a turn is new, so no fetch that stands still waits for it.
  have new : ∀ {l : Nat} {x : Fetch} {i j : Inquiry}, k.broker.fetches[l]? = some x →
      x.awaited? = some (call, i) → 
      ({ f with stage := t.stage } : Fetch).awaited? = some (call, j) → False := by
    intro l x i j old waits waits'
    rw [fits.goes.awaited, h.nextCall] at waits'
    obtain ⟨asked, asks, eq⟩ := Option.map_eq_some_iff.mp waits'
    cases eq
    have := (List.getElem?_eq_some_iff.mp (h.awaits old waits).1).1
    omega
  rcases fetch_turn_cases here there with ⟨rfl, rfl⟩ | ⟨other, old⟩ <;>
    rcases fetch_turn_cases here there' with ⟨rfl, rfl⟩ | ⟨other', old'⟩
  · rfl
  · exact (new old' awaited' awaited).elim
  · exact (new old awaited awaited').elim
  · exact h.awaits_inj old old' awaited awaited'

theorem outstanding_turn {call : Nat} {s : Slip} {key : String}
    (slip : (k.turn n f t).slips[call]? = some s) (keyed : s.key = some key)
    (not_taken : call ∉ (k.turn n f t).receipts.map Prod.fst) :
    ∃ (m : Nat) (g : Fetch), (k.turn n f t).broker.fetches[m]? = some g ∧ g.key = key ∧
      g.epoch = s.epoch ∧ g.awaited? = some (call, s.inquiry) := by
  rw [mem_calls_turn, fits.takes.call_eq, not_or] at not_taken
  rcases slip_turn_cases slip with old | ⟨inquiry, asks, rfl, rfl⟩
  · obtain ⟨m, g, there, owns, same, awaited⟩ := h.outstanding old keyed not_taken.1
    have other : n ≠ m := by
      rintro rfl
      rw [here, Option.some.injEq] at there
      subst there
      exact not_taken.2 (by rw [awaited]; rfl)
    exact ⟨m, g, (fetch_turn_ne other).trans there, owns, same, awaited⟩
  · refine ⟨n, { f with stage := t.stage }, fetch_turn_self here, ?_, ?_, ?_⟩
    · exact Option.some.inj keyed
    · exact (fits.goes.asks h here asks).1.symm
    · rw [fits.goes.awaited, asks, h.nextCall]
      rfl

omit fits in
theorem fetch_epoch_turn {m : Nat} {g : Fetch}
    (there : (k.turn n f t).broker.fetches[m]? = some g) :
    g.epoch ≤ (k.turn n f t).broker.epoch := by
  obtain ⟨g', old, -, same, -⟩ := fetch_of_turn here there
  rw [same]
  exact h.fetch_epoch old

omit fits in
theorem fetch_file_turn {m : Nat} {g : Fetch}
    (there : (k.turn n f t).broker.fetches[m]? = some g)
    (current : g.epoch = (k.turn n f t).broker.epoch) :
    (k.turn n f t).broker.fileId = some g.fileId := by
  obtain ⟨g', old, -, same, file⟩ := fetch_of_turn here there
  rw [file]
  exact h.fetch_file old (same.symm.trans current)

theorem fresh_epoch_turn {m : Nat} {g : Fetch}
    (there : (k.turn n f t).broker.fetches[m]? = some g) (fresh : g.stage = .fresh) :
    g.epoch = (k.turn n f t).broker.epoch := by
  rcases fetch_turn_cases here there with ⟨rfl, rfl⟩ | ⟨-, old⟩
  · exact absurd fresh fits.goes.not_fresh
  · exact h.fresh_epoch old fresh

theorem under_way_turn (key : String) (m : Nat) :
    Table.get? (k.turn n f t).broker.inFlight key = some m ↔
      ∃ g, (k.turn n f t).broker.fetches[m]? = some g ∧ g.key = key ∧
        g.epoch = (k.turn n f t).broker.epoch ∧ g.stage.isOver = false := by
  have going := fits.takes.going
  by_cases ends : t.stage.isOver = true ∧ k.broker.epoch = f.epoch
  · have erased : (k.turn n f t).broker.inFlight = Table.erase k.broker.inFlight f.key :=
      if_pos ends
    rw [erased, Table.get?_erase]
    constructor
    · intro found
      by_cases own : key = f.key
      · rw [if_pos own] at found
        cases found
      · rw [if_neg own] at found
        obtain ⟨g, old, owns, current, open_⟩ := (h.under_way key m).mp found
        have other : n ≠ m := by
          rintro rfl
          rw [here, Option.some.injEq] at old
          exact own (old ▸ owns.symm)
        exact ⟨g, (fetch_turn_ne other).trans old, owns, current, open_⟩
    · rintro ⟨g, there, owns, current, open_⟩
      rcases fetch_turn_cases here there with ⟨rfl, rfl⟩ | ⟨other, old⟩
      · exact absurd ends.1 (by rw [open_]; simp)
      · have found := (h.under_way key m).mpr ⟨g, old, owns, current, open_⟩
        rw [if_neg, found]
        intro own
        have mine := (h.under_way key n).mpr ⟨f, here, own.symm, ends.2.symm, going⟩
        rw [found, Option.some.injEq] at mine
        exact other mine.symm
  · have kept : (k.turn n f t).broker.inFlight = k.broker.inFlight := if_neg ends
    rw [kept, h.under_way key m]
    constructor
    · rintro ⟨g, old, owns, current, open_⟩
      by_cases same : n = m
      · subst same
        rw [here, Option.some.injEq] at old
        subst old
        refine ⟨_, fetch_turn_self here, owns, current, ?_⟩
        exact Bool.eq_false_iff.mpr fun ended => ends ⟨ended, current.symm⟩
      · exact ⟨g, (fetch_turn_ne same).trans old, owns, current, open_⟩
    · rintro ⟨g, there, owns, current, open_⟩
      rcases fetch_turn_cases here there with ⟨rfl, rfl⟩ | ⟨-, old⟩
      · exact ⟨f, here, owns, current, going⟩
      · exact ⟨g, old, owns, current, open_⟩

omit fits in
/-- The known texts change as the receipt for the answer says. -/
theorem replay_takes {slips : List Slip} {taken : Option (Nat × Answer)} {entries : Table String}
    (old : ∀ (call : Nat) (s : Slip), k.slips[call]? = some s → slips[call]? = some s)
    (takes : Turn.Takes f k taken entries) :
    entries = taken.toList.foldl (credit slips k.broker.epoch) k.broker.entries := by
  cases takes with
  | nothing fresh => rfl
  | answer awaited a =>
    rw [Option.toList_some, List.foldl_cons, List.foldl_nil,
      credit_of_key (old _ _ (h.awaits here awaited).1)]
    simp only [credited, eq_comm]

theorem entries_eq_turn : (k.turn n f t).broker.entries = (k.turn n f t).replay := by
  have before : k.receipts.foldl (credit (k.turn n f t).slips k.broker.epoch) [] =
      k.broker.entries := by
    rw [h.entries_eq]
    exact replay_append h.receipt_lt _
  show t.entries = (k.receipts ++ t.taken.toList).foldl
    (credit (k.turn n f t).slips k.broker.epoch) []
  rw [List.foldl_append, before]
  exact replay_takes h here (fun _ _ => slip_turn_of_slip) fits.takes

theorem outcome_turn {m : Nat} {g : Fetch} {r : Resolution} {text : String}
    (there : (k.turn n f t).broker.fetches[m]? = some g) (ended : g.stage = .finished (.ok r))
    (told : r.text? = some text) : (k.turn n f t).Gave g.fileId g.key text := by
  rcases fetch_turn_cases here there with ⟨rfl, rfl⟩ | ⟨-, old⟩
  · obtain ⟨taken, asked, stage, entries⟩ := t
    cases ended
    cases fits.goes with
    | ends _ known =>
      obtain ⟨same, is_known⟩ := known r text rfl told
      have loaded : k.broker.fileId = some f.fileId := h.fetch_file here same.symm
      refine gave_of_known (slip_file_turn h here fits) loaded ?_
      rw [← entries_eq_turn h here fits]
      exact is_known
  · obtain ⟨receipt, mem, slip, slip_eq, rest⟩ := h.outcome old ended told
    exact ⟨receipt, mem_receipts_turn.mpr (Or.inl mem), slip, slip_turn_of_slip slip_eq, rest⟩

/-- **Turns keep the books sound.** -/
theorem Sound.turn : (k.turn n f t).Sound where
  logged := logged_turn h
  slip_epoch := slip_epoch_turn h
  slip_file := slip_file_turn h here fits
  receipt_lt := receipt_lt_turn h here fits
  fetch_epoch := fetch_epoch_turn h here
  fetch_file := fetch_file_turn h here
  under_way := under_way_turn h here fits
  fresh_epoch := fresh_epoch_turn h here fits
  awaits := awaits_turn h here fits
  awaits_inj := awaits_inj_turn h here fits
  outstanding := outstanding_turn h here fits
  entries_eq := entries_eq_turn h here fits
  outcome := outcome_turn h here fits

end Fits
end Turn

/-! ## Steps of a fetch -/

theorem Sound.advance {k : Books} (h : k.Sound) (supply : Supply) (n : Nat) :
    (k.advance supply n).Sound := by
  rcases advance_cases supply n k with ⟨-, same⟩ | ⟨f, t, here, fits, -, eq⟩
  · rw [same]
    exact h
  · rw [eq]
    exact h.turn here fits

theorem Sound.poll {k : Books} (h : k.Sound) (supply : Supply) (n : Nat) :
    (k.poll supply n).Sound :=
  ((h.advance supply n).advance supply n).advance supply n

end Books
end CodeGloss
