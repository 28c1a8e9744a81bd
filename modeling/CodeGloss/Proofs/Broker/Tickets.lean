import CodeGloss.Proofs.Broker.Growth

/-!
# Tickets

The books of a broker are told of two things from outside besides the loading of files: that
something is demanded (`Books.demand`), and that a ticket is shown (`Books.present`).  A ticket is
what the books then have for the demand (`Books.Issued`), and if there is an outcome for it when it
is shown, that is what the books have for the ticket (`Books.Yields`).

Neither replaces a file, so the epoch stays; only answers that are at hand are taken; and what is
sound stays sound.
-/

namespace CodeGloss

open Service (Answer Inquiry)

/-! ## Demands -/

/-- What can be demanded of a broker. -/
inductive Demand where
  /-- The annotation of a definition. -/
  | gloss (d : Definition) (fileId : String)
  /-- More detail on a definition than its current explanation gives. -/
  | detail (d : Definition) (fileId current : String)
deriving DecidableEq

deriving instance DecidableEq for Ticket, Fetch.Stage, Fetch

/-- The file that a demand is about. -/
def Demand.fileId : Demand → String
  | gloss _ fileId => fileId
  | detail _ fileId _ => fileId

namespace Books

/-- Makes a demand. -/
def demand (x : Demand) (k : Books) : Books × Ticket :=
  match x with
  | .gloss d fileId => k.resolve d fileId
  | .detail d fileId current => k.sayMore d fileId current

/-- The ticket that is handed out for a demand, by the books right after it. -/
inductive Issued (k : Books) : Demand → Ticket → Prop where
  | elsewhere {x : Demand} (apart : k.broker.isElsewhere x.fileId = true) :
      Issued k x (.ready (.ok .stale))
  | known {d : Definition} {fileId text : String} (loaded : k.broker.fileId = some fileId)
      (known : Table.get? k.broker.entries d.glossKey = some text) :
      Issued k (.gloss d fileId) (.ready (.ok (.cached text)))
  | shared {d : Definition} {n : Nat} {f : Fetch} (here : k.broker.fetches[n]? = some f)
      (key : f.key = d.glossKey) (same : f.epoch = k.broker.epoch) :
      Issued k (.gloss d f.fileId) (.fetch n k.broker.epoch)
  | asked {d : Definition} {fileId current : String} {n : Nat}
      (here : k.slips[n]? =
        some ⟨.generate fileId (Broker.followUp d current), none, k.broker.epoch⟩) :
      Issued k (.detail d fileId current) (.call n k.broker.epoch)

/-- The outcome for a ticket, by the books right after it was shown. -/
inductive Yields (k : Books) : Ticket → Resolution.Outcome → Prop where
  | ready (outcome : Resolution.Outcome) : Yields k (.ready outcome) outcome
  | fetch {n epoch : Nat} {outcome : Resolution.Outcome}
      (ended : k.broker.outcome? n = some outcome) :
      Yields k (.fetch n epoch) (k.broker.current epoch outcome)
  | failed {n epoch : Nat} {a : Answer} {failure : Service.Failure} (taken : (n, a) ∈ k.receipts)
      (said : a.toText = .error failure) : Yields k (.call n epoch) (.error failure)
  | told {n epoch : Nat} {a : Answer} {text : String} (taken : (n, a) ∈ k.receipts)
      (said : a.toText = .ok text) :
      Yields k (.call n epoch) (k.broker.current epoch (.ok (.generated text)))

/-! ## Showing a ticket -/

section Present

variable (supply : Supply) (k : Books)

theorem epoch_advance (n : Nat) : (k.advance supply n).broker.epoch = k.broker.epoch := by
  rcases advance_cases supply n k with ⟨-, same⟩ | ⟨f, t, -, -, -, eq⟩
  · rw [same]
  · rw [eq]
    rfl

theorem epoch_poll (n : Nat) : (k.poll supply n).broker.epoch = k.broker.epoch := by
  rw [poll, epoch_advance, epoch_advance, epoch_advance]

theorem epoch_present (ticket : Ticket) :
    (k.present supply ticket).1.broker.epoch = k.broker.epoch := by
  cases ticket with
  | ready outcome => rfl
  | fetch n epoch => exact k.epoch_poll supply n
  | call n epoch => rfl

/-- Only answers that are at hand are taken, each as one to its inquiry. -/
theorem mem_receipts_advance {k : Books} (h : k.Sound) {n : Nat} {r : Nat × Answer}
    (mem : r ∈ (k.advance supply n).receipts) :
    r ∈ k.receipts ∨ ∃ s, k.slips[r.1]? = some s ∧ supply r.1 s.inquiry = some r.2 := by
  rcases advance_cases supply n k with ⟨-, same⟩ | ⟨f, t, -, -, given, eq⟩
  · rw [same] at mem
    exact Or.inl mem
  · rw [eq, mem_receipts_turn] at mem
    exact mem.imp_right fun taken => h.slip_of_answer? (given r taken)

theorem mem_receipts_present {k : Books} (h : k.Sound) {ticket : Ticket} {r : Nat × Answer}
    (mem : r ∈ (k.present supply ticket).1.receipts) :
    r ∈ k.receipts ∨ ∃ s, (k.present supply ticket).1.slips[r.1]? = some s ∧
      supply r.1 s.inquiry = some r.2 := by
  cases ticket with
  | ready outcome => exact Or.inl mem
  | fetch n epoch =>
    have first := h.advance supply n
    have second := first.advance supply n
    have later := grows_advance (k.advance supply n) supply n
    have latest := grows_advance ((k.advance supply n).advance supply n) supply n
    rcases mem_receipts_advance supply second mem with earlier | ⟨s, here, said⟩
    · rcases mem_receipts_advance supply first earlier with earliest | ⟨s, here, said⟩
      · refine (mem_receipts_advance supply h earliest).imp_right ?_
        rintro ⟨s, here, said⟩
        exact ⟨s, (k.grows_poll supply n).slip here, said⟩
      · exact Or.inr ⟨s, (later.trans latest).slip here, said⟩
    · exact Or.inr ⟨s, latest.slip here, said⟩
  | call n epoch =>
    refine (List.mem_append.mp mem).imp_right fun new => ?_
    rw [receive, Option.mem_toList] at new
    obtain ⟨a, given, rfl⟩ := Option.map_eq_some_iff.mp new
    exact h.slip_of_answer? given

/-- What is given out for a ticket is its outcome. -/
theorem yields_present {ticket : Ticket} {outcome : Resolution.Outcome}
    (given : (k.present supply ticket).2 = some outcome) :
    (k.present supply ticket).1.Yields ticket outcome := by
  cases ticket with
  | ready o =>
    cases given
    exact .ready _
  | fetch n epoch =>
    obtain ⟨o, ended, rfl⟩ := Option.map_eq_some_iff.mp given
    exact .fetch ended
  | call n epoch =>
    simp only [present, Broker.present] at given ⊢
    cases a? : k.broker.answer? supply n with
    | none =>
      rw [a?] at given
      cases given
    | some a =>
      have taken : (n, a) ∈ k.receipts ++ k.receive supply n := by
        refine List.mem_append_right _ ?_
        rw [receive, a?]
        exact List.mem_singleton.mpr rfl
      rw [a?, Option.map_some] at given
      cases said : a.toText with
      | error failure =>
        rw [said] at given
        cases given
        exact .failed taken said
      | ok text =>
        rw [said] at given
        cases given
        exact .told taken said

end Present

/-! ## Making a demand -/

section Demand

variable {k : Books} (x : Demand)

theorem epoch_demand : (k.demand x).1.broker.epoch = k.broker.epoch := by
  cases x with
  | gloss d fileId =>
    show (k.broker.resolve d fileId).1.epoch = _
    rcases Broker.resolve_cases d fileId k.broker with ⟨-, eq⟩ | ⟨-, ⟨text, -, eq⟩ |
      ⟨-, n, -, eq⟩ | ⟨-, -, eq⟩⟩ <;> rw [eq] <;> rfl
  | detail d fileId current =>
    show (k.broker.sayMore d fileId current).1.epoch = _
    unfold Broker.sayMore
    split <;> rfl

theorem receipts_demand : (k.demand x).1.receipts = k.receipts := by
  cases x <;> rfl

theorem grows_demand : k.Grows (k.demand x).1 := by
  cases x with
  | gloss d fileId => exact k.grows_resolve d fileId
  | detail d fileId current => exact k.grows_sayMore d fileId current

theorem Sound.demand (h : k.Sound) : (k.demand x).1.Sound := by
  cases x with
  | gloss d fileId => exact h.resolve d fileId
  | detail d fileId current => exact h.sayMore d fileId current

/-- Whoever makes a demand and shows the ticket leaves no fetch at its beginning. -/
theorem Settled.demand (h : k.Settled) (supply : Supply) :
    ((k.demand x).1.present supply (k.demand x).2).1.Settled := by
  cases x with
  | gloss d fileId => exact Settled.resolve supply h d fileId
  | detail d fileId current =>
    refine Settled.present supply ?_ _
    show ∀ n f, (k.broker.sayMore d fileId current).1.fetches[n]? = some f → _
    unfold Broker.sayMore
    split <;> exact h

/-- A fetch of the current epoch is about the file that is demanded, if none or that one is loaded.
-/
theorem Sound.file_eq (h : k.Sound) {fileId : String}
    (here : k.broker.isElsewhere fileId = false) {n : Nat} {f : Fetch}
    (there : k.broker.fetches[n]? = some f) (same : f.epoch = k.broker.epoch) :
    f.fileId = fileId := by
  have loaded := h.fetch_file there same
  rcases Broker.isElsewhere_eq_false_iff.mp here with none_ | eq
  · rw [none_] at loaded
    cases loaded
  · rw [eq, Option.some.injEq] at loaded
    exact loaded.symm

/-- What a demand for an annotation comes to while its file is loaded: the text is known, or a fetch
for its key is under way, or a fetch is opened.  Only the last of these changes anything. -/
theorem demand_of_loaded {d : Definition} {fileId : String}
    (loaded : k.broker.fileId = some fileId) :
    (∃ text, Table.get? k.broker.entries d.glossKey = some text ∧
        k.demand (.gloss d fileId) = (k, .ready (.ok (.cached text)))) ∨
      (Table.get? k.broker.entries d.glossKey = none ∧
        ((∃ n, Table.get? k.broker.inFlight d.glossKey = some n ∧
            k.demand (.gloss d fileId) = (k, .fetch n k.broker.epoch)) ∨
          (Table.get? k.broker.inFlight d.glossKey = none ∧
            k.demand (.gloss d fileId) =
              ({ k with broker := k.broker.openFetch d fileId },
                .fetch k.broker.fetches.length k.broker.epoch)))) := by
  have same : k.broker.load fileId = k.broker := by
    rw [Broker.load, ← loaded]
  have here := Broker.isElsewhere_eq_false_iff.mpr (Or.inr loaded)
  rcases Broker.resolve_cases d fileId k.broker with ⟨apart, -⟩ | ⟨-, ⟨text, known, eq⟩ |
    ⟨absent, n, going, eq⟩ | ⟨absent, free, eq⟩⟩
  · rw [here] at apart
    cases apart
  · left
    refine ⟨text, known, ?_⟩
    simp only [Books.demand, Books.resolve, eq, same]
  · right
    refine ⟨absent, Or.inl ⟨n, going, ?_⟩⟩
    simp only [Books.demand, Books.resolve, eq, same]
  · right
    refine ⟨absent, Or.inr ⟨free, ?_⟩⟩
    simp only [Books.demand, Books.resolve, eq, same]

theorem Sound.issued (h : k.Sound) : (k.demand x).1.Issued x (k.demand x).2 := by
  cases x with
  | gloss d fileId =>
    rcases Broker.resolve_cases d fileId k.broker with ⟨apart, eq⟩ | ⟨here, ⟨text, known, eq⟩ |
      ⟨-, n, going, eq⟩ | ⟨-, -, eq⟩⟩
    · simp only [Books.demand, Books.resolve, eq]
      exact .elsewhere apart
    · simp only [Books.demand, Books.resolve, eq]
      exact .known rfl known
    · obtain ⟨f, there, key, same, -⟩ := (h.under_way _ n).mp going
      have file := h.file_eq here there same
      subst file
      simp only [Books.demand, Books.resolve, eq]
      exact .shared (k := { k with broker := k.broker.load f.fileId }) there key same
    · simp only [Books.demand, Books.resolve, eq]
      exact .shared (k := { k with broker := (k.broker.load fileId).openFetch d fileId })
        (f := { key := d.glossKey, code := d.text, fileId, epoch := k.broker.epoch })
        List.getElem?_concat_length rfl rfl
  | detail d fileId current =>
    simp only [Books.demand, Books.sayMore, Broker.sayMore]
    by_cases apart : k.broker.isElsewhere fileId = true
    · rw [if_pos apart]
      exact .elsewhere apart
    · rw [if_neg apart, h.nextCall]
      refine .asked (k := k.enter none (k.broker.issue _)) ?_
      simp only [enter, Broker.issue, List.drop_left, List.map_cons, List.map_nil,
        List.getElem?_concat_length]

/-- The ticket of a demand stays what it is when it is shown. -/
theorem Issued.present {ticket : Ticket} {x : Demand} (issued : k.Issued x ticket)
    (supply : Supply) : (k.present supply ticket).1.Issued x ticket := by
  cases issued with
  | elsewhere apart => exact .elsewhere apart
  | known loaded known => exact .known loaded known
  | @shared d n f here key same =>
    have epoch := k.epoch_present supply (.fetch n k.broker.epoch)
    obtain ⟨f', here', key', file', epoch', -⟩ := (k.grows_poll supply n).fetch here
    have issued := Issued.shared here' (key'.trans key) (epoch'.trans (same.trans epoch.symm))
    rwa [file', k.epoch_poll] at issued
  | asked here => exact .asked (k := { k with receipts := _ }) here

/-- The ticket of a fetch is for a demand of the current epoch, -/
theorem Issued.epoch_eq {n epoch : Nat} {x : Demand} (issued : k.Issued x (.fetch n epoch)) :
    epoch = k.broker.epoch := by
  cases issued with
  | shared here key same => rfl

/-- and the fetch is one for the key and the file that were demanded. -/
theorem Issued.fetch {n epoch : Nat} {d : Definition} {fileId : String}
    (issued : k.Issued (.gloss d fileId) (.fetch n epoch)) :
    ∃ f, k.broker.fetches[n]? = some f ∧ f.key = d.glossKey ∧ f.fileId = fileId ∧
      f.epoch = epoch := by
  cases issued with
  | shared here key same => exact ⟨_, here, key, rfl, same⟩

/-- An inquiry that a ticket is for was made for no key. -/
theorem Issued.detail {ticket : Ticket} {x : Demand} (issued : k.Issued x ticket) {k' : Books}
    (grows : k.Grows k') (n epoch : Nat) (for_ : ticket = .call n epoch) :
    ∃ s : Slip, k'.slips[n]? = some s ∧ s.key = none := by
  cases issued with
  | elsewhere apart => cases for_
  | known loaded known => cases for_
  | shared here key same => cases for_
  | asked here =>
    cases for_
    exact ⟨_, grows.slip here, rfl⟩

end Demand
end Books
end CodeGloss
