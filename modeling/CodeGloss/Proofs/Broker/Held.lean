import CodeGloss.Proofs.Broker.Tickets

/-!
# Tickets that are kept

A ticket may be kept for long and shown again and again, while other demands are made and files are
replaced.  What stays true of it is less than what was true when it was handed out
(`Books.Issued`), but it is enough: the ticket is for its demand (`Books.Held`), so that a text
which it leads to was told for the demand (`Books.Held.gave`).

Nor is there a reason to give up hope for a ticket of the current epoch (`Ticket.IsLive`).  A fetch
finds its file replaced only when it was replaced (`Books.Timely`), and so whoever shows a ticket of
the current epoch is never told that (`Books.Held.ne_stale`).
-/

namespace CodeGloss

open Service (Answer Inquiry)

namespace Books

/-! ## Fetches that find their file replaced -/

/-- Whether no fetch of the current epoch has found its file replaced. -/
def Timely (k : Books) : Prop :=
  ∀ (n : Nat) (f : Fetch), k.broker.fetches[n]? = some f →
    f.stage = .finished (.ok .stale) → f.epoch ≠ k.broker.epoch

theorem timely_empty : ({} : Books).Timely := by simp [Timely]

/-- A turn that ends so is one of an earlier epoch. -/
theorem Turn.Goes.epoch_ne {f : Fetch} {k : Books} {entries : Table String}
    {asked : Option Inquiry} (goes : Turn.Goes f k entries asked (.finished (.ok .stale))) :
    f.epoch ≠ k.broker.epoch := by
  cases goes with
  | ends outcome known timely => exact fun same => timely same.symm rfl

section Timely

variable {k : Books} (h : k.Timely)
include h

theorem Timely.advance (supply : Supply) (n : Nat) : (k.advance supply n).Timely := by
  rcases advance_cases supply n k with ⟨-, same⟩ | ⟨f, t, here, fits, -, eq⟩
  · rw [same]
    exact h
  · rw [eq]
    intro m g there ended
    rcases fetch_turn_cases here there with ⟨-, rfl⟩ | ⟨-, old⟩
    · have goes := fits.goes
      rw [show t.stage = .finished (.ok .stale) from ended] at goes
      exact goes.epoch_ne
    · exact h m g old ended

theorem Timely.present (supply : Supply) (ticket : Ticket) :
    (k.present supply ticket).1.Timely := by
  cases ticket with
  | ready outcome => exact h
  | fetch n epoch => exact ((h.advance supply n).advance supply n).advance supply n
  | call n epoch => exact h

/-- A fetch that is opened has found nothing yet. -/
theorem Timely.openFetch (d : Definition) (fileId : String) :
    ({ k with broker := k.broker.openFetch d fileId } : Books).Timely := by
  intro m f there ended
  rcases fetch_open_cases there with old | ⟨-, rfl⟩
  · exact h m f old ended
  · cases ended

theorem Timely.demand (x : Demand) : (k.demand x).1.Timely := by
  cases x with
  | gloss d fileId =>
    rcases Broker.resolve_cases d fileId k.broker with ⟨-, eq⟩ | ⟨-, ⟨text, -, eq⟩ |
      ⟨-, n, -, eq⟩ | ⟨-, -, eq⟩⟩
    · simp only [Books.demand, Books.resolve, eq]
      exact h
    · simp only [Books.demand, Books.resolve, eq]
      exact h
    · simp only [Books.demand, Books.resolve, eq]
      exact h
    · simp only [Books.demand, Books.resolve, eq]
      exact Timely.openFetch (k := { k with broker := k.broker.load fileId }) h d fileId
  | detail d fileId current =>
    show (k.enter none (k.broker.sayMore d fileId current).1).Timely
    unfold Broker.sayMore
    split <;> exact h

omit h in
/-- When a file is replaced, every fetch there has been is of an earlier epoch. -/
theorem Sound.timely_switchFile (h : k.Sound) (fileId : Option String) :
    (k.switchFile fileId).Timely := by
  intro n f there ended
  have earlier : f.epoch ≤ k.broker.epoch := h.fetch_epoch there
  show f.epoch ≠ k.broker.epoch + 1
  omega

end Timely

/-! ## The loaded file stays -/

section File

variable {k : Books}

theorem fileId_advance (supply : Supply) (n : Nat) :
    (k.advance supply n).broker.fileId = k.broker.fileId := by
  rcases advance_cases supply n k with ⟨-, same⟩ | ⟨f, t, -, -, -, eq⟩
  · rw [same]
  · rw [eq]
    rfl

theorem fileId_present (supply : Supply) (ticket : Ticket) :
    (k.present supply ticket).1.broker.fileId = k.broker.fileId := by
  cases ticket with
  | ready outcome => rfl
  | fetch n epoch => exact ((fileId_advance ..).trans (fileId_advance ..)).trans (fileId_advance ..)
  | call n epoch => rfl

/-- While a file is loaded no demand replaces it. -/
theorem fileId_demand (loaded : k.broker.fileId.isSome) (x : Demand) :
    (k.demand x).1.broker.fileId = k.broker.fileId := by
  cases x with
  | gloss d fileId =>
    have kept : k.broker.isElsewhere fileId = false →
        (k.broker.load fileId).fileId = k.broker.fileId := by
      intro here
      rcases Broker.isElsewhere_eq_false_iff.mp here with none_ | same
      · rw [none_] at loaded
        cases loaded
      · exact same.symm
    show (k.broker.resolve d fileId).1.fileId = _
    rcases Broker.resolve_cases d fileId k.broker with ⟨-, eq⟩ | ⟨here, ⟨text, -, eq⟩ |
      ⟨-, n, -, eq⟩ | ⟨-, -, eq⟩⟩
    · rw [eq]
    · rw [eq]
      exact kept here
    · rw [eq]
      exact kept here
    · rw [eq]
      exact kept here
  | detail d fileId current =>
    show (k.broker.sayMore d fileId current).1.fileId = _
    unfold Broker.sayMore
    split <;> rfl

/-- While no file is loaded nothing is known. -/
theorem Sound.get?_eq_none (h : k.Sound) (unloaded : k.broker.fileId = none) (key : String) :
    Table.get? k.broker.entries key = none := by
  cases known : Table.get? k.broker.entries key with
  | none => rfl
  | some text =>
    rw [h.entries_eq] at known
    rcases known_or_counts_of_replay known with nothing | ⟨r, -, slip, here, keyed, current, -⟩
    · cases nothing
    · obtain ⟨about, eq⟩ := h.slip_file slip (List.mem_of_getElem? here) keyed current
      rw [eq, unloaded] at about
      cases about

end File

/-! ## Tickets -/

/-- Whether a ticket is for a demand, whenever that was made. -/
inductive Held (k : Books) : Demand → Ticket → Prop
  | ready {x : Demand} {outcome : Resolution.Outcome}
      (gave : ∀ d fileId r text, x = .gloss d fileId → outcome = .ok r → r.text? = some text →
        k.Gave fileId d.glossKey text) : Held k x (.ready outcome)
  | fetch {d : Definition} {n : Nat} {f : Fetch} (here : k.broker.fetches[n]? = some f)
      (key : f.key = d.glossKey) : Held k (.gloss d f.fileId) (.fetch n f.epoch)
  | call {d : Definition} {fileId current : String} {n epoch : Nat} {s : Slip}
      (here : k.slips[n]? = some s) (no_key : s.key = none) :
      Held k (.detail d fileId current) (.call n epoch)

end Books

/-- Whether a ticket is one of an epoch, or its outcome is there and is not that the file was
replaced. -/
def Ticket.IsLive (epoch : Nat) : Ticket → Prop
  | ready outcome => outcome ≠ .ok .stale
  | fetch _ made => made = epoch
  | call _ made => made = epoch

namespace Books

section Held

variable {k k' : Books} {x : Demand} {ticket : Ticket}

theorem Held.grows (held : k.Held x ticket) (grows : k.Grows k') : k'.Held x ticket := by
  cases held with
  | ready gave =>
    exact .ready fun d fileId r text about told said =>
      grows.gave (gave d fileId r text about told said)
  | fetch here key =>
    obtain ⟨f', here', key', file', epoch', -⟩ := grows.fetch here
    rw [← file', ← epoch']
    exact .fetch here' (key'.trans key)
  | call here no_key => exact .call (grows.slip here) no_key

/-- A ticket is for the demand that it is handed out for, -/
theorem Issued.held (h : k.Sound) (issued : k.Issued x ticket) : k.Held x ticket := by
  cases issued with
  | elsewhere apart =>
    refine .ready ?_
    rintro d fileId r text - ⟨⟩ ⟨⟩
  | known loaded known =>
    refine .ready ?_
    rintro d fileId r text ⟨⟩ ⟨⟩ ⟨⟩
    rw [h.entries_eq] at known
    exact gave_of_known h.slip_file loaded known
  | shared here key same =>
    rw [← same]
    exact .fetch here key
  | asked here => exact .call here rfl

/-- and it is of the current epoch, unless another file is loaded. -/
theorem Issued.isLive (issued : k.Issued x ticket) (here : k.broker.isElsewhere x.fileId = false) :
    ticket.IsLive k.broker.epoch := by
  cases issued with
  | elsewhere apart =>
    rw [here] at apart
    cases apart
  | known loaded known => simp [Ticket.IsLive]
  | shared here key same => rfl
  | asked here => rfl

/-- What is asked for more detail is asked for no key. -/
theorem Held.detail (held : k.Held x ticket) (n epoch : Nat) (for_ : ticket = .call n epoch) :
    ∃ s : Slip, k.slips[n]? = some s ∧ s.key = none := by
  cases held with
  | ready gave => cases for_
  | fetch here key => cases for_
  | call here no_key =>
    cases for_
    exact ⟨_, here, no_key⟩

/-- What becomes of a demand if that is not that the file was replaced. -/
theorem eq_of_current {b : Broker} {epoch : Nat} {outcome other : Resolution.Outcome}
    (eq : b.current epoch outcome = other) (told : other ≠ .ok .stale) : outcome = other := by
  unfold Broker.current at eq
  split at eq
  next => exact eq
  next => exact absurd eq.symm told

/-- **A text that a ticket leads to was told for its demand.** -/
theorem Held.gave (h : k.Sound) {d : Definition} {fileId : String}
    (held : k.Held (.gloss d fileId) ticket) {r : Resolution} {text : String}
    (yields : k.Yields ticket (.ok r)) (said : r.text? = some text) :
    k.Gave fileId d.glossKey text := by
  have told : (.ok r : Resolution.Outcome) ≠ .ok .stale := by
    rintro ⟨⟩
    cases said
  generalize outcome : (.ok r : Resolution.Outcome) = o at yields told
  cases held with
  | ready gave =>
    cases yields
    exact gave d fileId r text rfl outcome.symm said
  | fetch here key =>
    generalize eq : o = given at yields
    cases yields with
    | fetch ended =>
      rw [eq_of_current eq.symm told, ← outcome] at ended
      rw [← key]
      exact h.outcome here (stage_of_outcome? here ended) said

/-- **A ticket of the current epoch does not lead to the message that the file was replaced.** -/
theorem Held.ne_stale (timely : k.Timely) (held : k.Held x ticket)
    (live : ticket.IsLive k.broker.epoch) {outcome : Resolution.Outcome}
    (yields : k.Yields ticket outcome) : outcome ≠ .ok .stale := by
  have kept : ∀ {epoch : Nat} (o : Resolution.Outcome), epoch = k.broker.epoch →
      k.broker.current epoch o = o := fun o same => if_pos same.symm
  cases held with
  | ready gave =>
    cases yields
    exact live
  | fetch here key =>
    cases yields with
    | fetch ended =>
      rw [kept _ live]
      rintro rfl
      exact timely _ _ here (stage_of_outcome? here ended) live
  | call here no_key =>
    cases yields with
    | failed taken said => simp
    | told taken said =>
      rw [kept _ live]
      simp

end Held
end Books
end CodeGloss
