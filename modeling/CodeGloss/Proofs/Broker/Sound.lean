import CodeGloss.Proofs.Broker.Turn
import Mathlib.Data.List.Basic

/-!
# Sound books

What holds of the books of a broker at every moment of every run, and that each operation keeps it.

The heart of it are three statements that hold each other up.  A fetch of the current epoch is one
of the loaded file (`Books.Sound.fetch_file`), whoever has put that file there.  A fetch is under
way in the current epoch exactly while it stands in the table of those that are
(`Books.Sound.under_way`), so that there is one for a key at most.  And what is known is what the
receipts of the current epoch say (`Books.Sound.entries_eq`), so that a text which a fetch ends with
was told by an answer about its file (`Books.Sound.outcome`).

A file may be replaced only when every fetch has made its first step: the inquiry of a fetch that is
still fresh would otherwise be of a later epoch than the fetch.  This is `Books.Settled`, and
whoever opens a fetch polls it at once.
-/

namespace CodeGloss

open Service (Answer Inquiry)

namespace Books

/-- What holds of the books at every moment. -/
structure Sound (k : Books) : Prop where
  /-- The slips are those of the log. -/
  logged : k.slips.map Slip.inquiry = k.broker.calls
  slip_epoch : ∀ s ∈ k.slips, s.epoch ≤ k.broker.epoch
  /-- In the current epoch fetches ask about the loaded file. -/
  slip_file : ∀ s ∈ k.slips, s.key.isSome → s.epoch = k.broker.epoch →
    s.inquiry.fileId?.isSome ∧ s.inquiry.fileId? = k.broker.fileId
  receipt_lt : ∀ r ∈ k.receipts, r.1 < k.slips.length
  fetch_epoch : ∀ {n : Nat} {f : Fetch}, k.broker.fetches[n]? = some f →
    f.epoch ≤ k.broker.epoch
  /-- In the current epoch fetches are about the loaded file. -/
  fetch_file : ∀ {n : Nat} {f : Fetch}, k.broker.fetches[n]? = some f →
    f.epoch = k.broker.epoch → k.broker.fileId = some f.fileId
  /-- The fetches that are under way are those of the current epoch that are not over. -/
  under_way : ∀ (key : String) (n : Nat), Table.get? k.broker.inFlight key = some n ↔
    ∃ f, k.broker.fetches[n]? = some f ∧ f.key = key ∧ f.epoch = k.broker.epoch ∧
      f.stage.isOver = false
  fresh_epoch : ∀ {n : Nat} {f : Fetch}, k.broker.fetches[n]? = some f → f.stage = .fresh →
    f.epoch = k.broker.epoch
  /-- A fetch waits for an inquiry of its own whose answer was not taken. -/
  awaits : ∀ {n : Nat} {f : Fetch} {call : Nat} {inquiry : Inquiry},
    k.broker.fetches[n]? = some f → f.awaited? = some (call, inquiry) →
      k.slips[call]? = some ⟨inquiry, some f.key, f.epoch⟩ ∧ call ∉ k.receipts.map Prod.fst
  /-- No two fetches wait for one inquiry. -/
  awaits_inj : ∀ {n m : Nat} {f g : Fetch} {call : Nat} {i j : Inquiry},
    k.broker.fetches[n]? = some f → k.broker.fetches[m]? = some g →
      f.awaited? = some (call, i) → g.awaited? = some (call, j) → n = m
  /-- While the answer to an inquiry of a fetch was not taken, a fetch waits for it. -/
  outstanding : ∀ {call : Nat} {s : Slip} {key : String}, k.slips[call]? = some s →
    s.key = some key → call ∉ k.receipts.map Prod.fst →
      ∃ (n : Nat) (f : Fetch), k.broker.fetches[n]? = some f ∧ f.key = key ∧ f.epoch = s.epoch ∧
        f.awaited? = some (call, s.inquiry)
  /-- What is known is what the receipts say. -/
  entries_eq : k.broker.entries = k.replay
  /-- A text that a fetch ends with was told by an answer about its file. -/
  outcome : ∀ {n : Nat} {f : Fetch} {r : Resolution} {text : String},
    k.broker.fetches[n]? = some f → f.stage = .finished (.ok r) → r.text? = some text →
      k.Gave f.fileId f.key text

/-- Whether every fetch has made its first step. -/
def Settled (k : Books) : Prop :=
  ∀ (n : Nat) (f : Fetch), k.broker.fetches[n]? = some f → f.stage ≠ .fresh

theorem sound_empty : ({} : Books).Sound where
  logged := rfl
  slip_epoch := by simp
  slip_file := by simp
  receipt_lt := by simp
  fetch_epoch := by simp
  fetch_file := by simp
  under_way := by simp
  fresh_epoch := by simp
  awaits := by simp
  awaits_inj := by simp
  outstanding := by simp
  entries_eq := rfl
  outcome := by simp

theorem settled_empty : ({} : Books).Settled := by simp [Settled]

/-! ## Receipts -/

section Receipts

variable {slips : List Slip} {epoch : Nat} {t : Table String}

/-- A receipt whose slip has no key adds nothing. -/
theorem credit_of_no_key {r : Nat × Answer} {s : Slip} (here : slips[r.1]? = some s)
    (none_ : s.key = none) : credit slips epoch t r = t := by
  obtain ⟨inquiry, key, made⟩ := s
  cases none_
  simp only [credit, here]

theorem credit_of_key {r : Nat × Answer} {inquiry : Inquiry} {key : String} {made : Nat}
    (here : slips[r.1]? = some ⟨inquiry, some key, made⟩) :
    credit slips epoch t r = if made = epoch then inquiry.credit key r.2 t else t := by
  simp only [credit, here]

/-- Slips that come later do not matter to a receipt. -/
theorem credit_append {r : Nat × Answer} (lt : r.1 < slips.length) (more : List Slip) :
    credit (slips ++ more) epoch t r = credit slips epoch t r := by
  simp only [credit, List.getElem?_append_left lt]

theorem replay_append {receipts : List (Nat × Answer)} (lt : ∀ r ∈ receipts, r.1 < slips.length)
    (more : List Slip) :
    receipts.foldl (credit (slips ++ more) epoch) t = receipts.foldl (credit slips epoch) t :=
  List.foldl_ext _ _ _ fun _ r mem => credit_append (lt r mem) more

/-- In an epoch to come no receipt counts. -/
theorem replay_of_lt {receipts : List (Nat × Answer)} (lt : ∀ s ∈ slips, s.epoch < epoch) :
    receipts.foldl (credit slips epoch) t = t := by
  induction receipts with
  | nil => rfl
  | cons r rest ih =>
    have same : credit slips epoch t r = t := by
      unfold credit
      split
      next inquiry key made here =>
        have := lt _ (List.mem_of_getElem? here)
        rw [if_neg (by simp only at this; omega)]
      next => rfl
    rw [List.foldl_cons, same, ih]

/-- What is in a table after an answer was in it before or is told by the answer. -/
theorem tells_of_get?_credit {key other text : String} {inquiry : Inquiry} {a : Answer} {made : Nat}
    (known : Table.get? (inquiry.credit key a t) other = some text) :
    Table.get? t other = some text ∨ Tells ⟨inquiry, some key, made⟩ a other text := by
  cases inquiry with
  | list fileId =>
    cases said : a.toGlosses with
    | error failure =>
      left
      simpa only [Inquiry.credit, said] using known
    | ok glosses =>
      simp only [Inquiry.credit, said] at known
      suffices told : Table.get? t other = some text ∨ ⟨other, text⟩ ∈ glosses from
        told.imp_right fun mem => Or.inl ⟨fileId, glosses, rfl, said, mem⟩
      clear said
      induction glosses generalizing t with
      | nil => exact Or.inl known
      | cons gloss rest ih =>
        rcases ih known with before | mem
        · rw [Table.get?_insert] at before
          by_cases same : other = gloss.name
          · rw [if_pos same, Option.some.injEq] at before
            right
            rw [same, ← before]
            exact List.mem_cons_self
          · rw [if_neg same] at before
            exact Or.inl before
        · exact Or.inr (List.mem_cons_of_mem _ mem)
  | generate fileId code =>
    cases said : a.toText with
    | error failure =>
      left
      simpa only [Inquiry.credit, said] using known
    | ok told =>
      simp only [Inquiry.credit, said, Table.get?_insert] at known
      by_cases same : other = key
      · rw [if_pos same, Option.some.injEq] at known
        right
        exact Or.inr ⟨fileId, code, rfl, by rw [same], by rw [said, known]⟩
      · rw [if_neg same] at known
        exact Or.inl known
  | upload name content => exact Or.inl known

/-- Whether a receipt tells a text for a key and counts in an epoch. -/
def Counts (slips : List Slip) (epoch : Nat) (r : Nat × Answer) (key text : String) : Prop :=
  ∃ slip, slips[r.1]? = some slip ∧ slip.key.isSome ∧ slip.epoch = epoch ∧ Tells slip r.2 key text

theorem known_or_counts {r : Nat × Answer} {key text : String}
    (known : Table.get? (credit slips epoch t r) key = some text) :
    Table.get? t key = some text ∨ Counts slips epoch r key text := by
  cases here : slips[r.1]? with
  | none =>
    left
    simpa only [credit, here] using known
  | some slip =>
    obtain ⟨inquiry, _ | owner, made⟩ := slip
    · rw [credit_of_no_key here rfl] at known
      exact Or.inl known
    · rw [credit_of_key here] at known
      by_cases current : made = epoch
      · rw [if_pos current] at known
        exact (tells_of_get?_credit known).imp_right fun tells => ⟨_, here, rfl, current, tells⟩
      · rw [if_neg current] at known
        exact Or.inl known

/-- What is known after some receipts was known before or is told by one of them. -/
theorem known_or_counts_of_replay {receipts : List (Nat × Answer)} {key text : String}
    (known : Table.get? (receipts.foldl (credit slips epoch) t) key = some text) :
    Table.get? t key = some text ∨ ∃ r ∈ receipts, Counts slips epoch r key text := by
  induction receipts generalizing t with
  | nil => exact Or.inl known
  | cons r rest ih =>
    rw [List.foldl_cons] at known
    rcases ih known with before | ⟨r', mem, counts⟩
    · exact (known_or_counts before).imp_right fun counts => ⟨r, List.mem_cons_self, counts⟩
    · exact Or.inr ⟨r', List.mem_cons_of_mem _ mem, counts⟩

end Receipts

/-- A text that is known was told by an answer about the loaded file. -/
theorem gave_of_known {k : Books}
    (slip_file : ∀ s ∈ k.slips, s.key.isSome → s.epoch = k.broker.epoch →
      s.inquiry.fileId?.isSome ∧ s.inquiry.fileId? = k.broker.fileId)
    {fileId key text : String} (loaded : k.broker.fileId = some fileId)
    (known : Table.get? k.replay key = some text) : k.Gave fileId key text := by
  rcases known_or_counts_of_replay known with nothing | ⟨r, mem, slip, here, keyed, current, tells⟩
  · exact absurd nothing (by simp)
  · refine ⟨r, mem, slip, here, keyed, ?_, tells⟩
    rw [(slip_file slip (List.mem_of_getElem? here) keyed current).2, loaded]

end Books
end CodeGloss
