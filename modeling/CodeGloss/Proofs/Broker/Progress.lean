import CodeGloss.Proofs.Broker.LedgerSound

/-!
# Fetches go on

A fetch has three steps to make at most, and every turn leaves it fewer (`Books.left_turn_lt`).  A
poll is three steps.  So a fetch that was polled has nothing more to do: it is over, or the answer
that it waits for is not at hand (`Books.idle_poll`).  If it had something to do before, it has moved
(`Books.fetch_poll_of_busy`), and an answer that it waited for and that was at hand has been taken
(`Books.mem_receipts_poll`).

These hold of every fetch, also of one from an earlier epoch, and whoever shows the ticket for it.
-/

namespace CodeGloss

open Service (Answer Inquiry)

/-- How many steps a fetch has yet to make at most. -/
def Fetch.Stage.left : Fetch.Stage → Nat
  | fresh => 3
  | listing _ => 2
  | generating _ => 1
  | finished _ => 0

theorem Fetch.Stage.left_le (stage : Fetch.Stage) : stage.left ≤ 3 := by
  cases stage <;> simp [left]

theorem Fetch.Stage.left_pos {stage : Fetch.Stage} (going : stage.isOver = false) :
    0 < stage.left := by
  cases stage with
  | finished outcome => cases going
  | _ => simp [left]

namespace Books

/-- How many steps the fetch `n` has yet to make at most. -/
def left (n : Nat) (k : Books) : Nat :=
  (k.broker.fetches[n]?.map (·.stage.left)).getD 0

section

variable {n : Nat} {k : Books} {f : Fetch} {supply : Supply}

theorem left_of_fetch (here : k.broker.fetches[n]? = some f) : k.left n = f.stage.left := by
  rw [left, here]
  rfl

theorem left_le (n : Nat) (k : Books) : k.left n ≤ 3 := by
  cases here : k.broker.fetches[n]? with
  | none => simp [left, here]
  | some f =>
    rw [left_of_fetch here]
    exact f.stage.left_le

/-- A turn leaves fewer steps. -/
theorem left_turn_lt {t : Turn} (here : k.broker.fetches[n]? = some f) (fits : t.Fits f k) :
    (k.turn n f t).left n < k.left n := by
  rw [left_of_fetch here, left_of_fetch (fetch_turn_self here)]
  have going := fits.takes.going
  obtain ⟨taken, asked, stage, entries⟩ := t
  cases fits.goes with
  | lists fresh => simp [fresh, Fetch.Stage.left]
  | generates listed same absent => simp [listed, Fetch.Stage.left]
  | ends outcome known timely => exact Fetch.Stage.left_pos going

/-- A fetch that has something to do has fewer steps left when it has made one. -/
theorem left_advance_lt (busy : ¬k.Idle supply n) : (k.advance supply n).left n < k.left n := by
  rcases advance_cases supply n k with ⟨idle, -⟩ | ⟨f, t, here, fits, -, eq⟩
  · exact absurd idle busy
  · rw [eq]
    exact left_turn_lt here fits

/-- What has something to do after a step had something to do before. -/
theorem busy_of_advance (busy : ¬(k.advance supply n).Idle supply n) : ¬k.Idle supply n := by
  intro idle
  rw [advance_of_idle idle] at busy
  exact busy idle

/-- A fetch with no step left has nothing to do. -/
theorem idle_of_left_eq_zero (none_ : k.left n = 0) : k.Idle supply n := by
  intro f here
  rw [left_of_fetch here] at none_
  left
  cases ended : f.stage.isOver with
  | true => rfl
  | false =>
    have := Fetch.Stage.left_pos ended
    omega

/-- **A fetch that was polled has nothing more to do.** -/
theorem idle_poll (supply : Supply) (n : Nat) (k : Books) : (k.poll supply n).Idle supply n := by
  by_contra busy
  have second := busy_of_advance busy
  have first := busy_of_advance second
  have started := busy_of_advance first
  have := left_le n k
  have := left_advance_lt started
  have := left_advance_lt first
  have := left_advance_lt second
  exact busy (idle_of_left_eq_zero (by rw [poll]; omega))

/-- A fetch that has something to do moves when it is polled. -/
theorem fetch_poll_of_busy (busy : ¬k.Idle supply n) :
    (k.poll supply n).broker.fetches[n]? ≠ k.broker.fetches[n]? := by
  have le : ∀ k : Books, (k.advance supply n).left n ≤ k.left n := by
    intro k
    by_cases idle : k.Idle supply n
    · exact Nat.le_of_eq (by rw [advance_of_idle idle])
    · exact Nat.le_of_lt (left_advance_lt idle)
  have fewer : (k.poll supply n).left n < k.left n :=
    Nat.lt_of_le_of_lt (Nat.le_trans (le _) (le _)) (left_advance_lt busy)
  intro same
  rw [left, left, same] at fewer
  exact Nat.lt_irrefl _ fewer

/-- An answer that is at hand is taken when the fetch that waits for it is polled. -/
theorem mem_receipts_poll (here : k.broker.fetches[n]? = some f) {call : Nat} {inquiry : Inquiry}
    (awaited : f.awaited? = some (call, inquiry)) {a : Answer}
    (given : k.broker.answer? supply call = some a) : (call, a) ∈ (k.poll supply n).receipts := by
  have first : (call, a) ∈ (k.advance supply n).receipts := by
    rcases advance_cases supply n k with ⟨idle, -⟩ | ⟨g, t, there, fits, supplied, eq⟩
    · rcases idle f here with ended | ⟨c, i, waits, missing⟩
      · rw [Fetch.going_of_awaited? awaited] at ended
        cases ended
      · rw [awaited, Option.some.injEq, Prod.mk.injEq] at waits
        rw [← waits.1, given] at missing
        cases missing
    · rw [here, Option.some.injEq] at there
      subst there
      have taken := fits.takes.call_eq
      rw [awaited] at taken
      obtain ⟨⟨c, b⟩, is_taken, rfl⟩ := Option.map_eq_some_iff.mp taken
      have same := (supplied _ is_taken).symm.trans given
      rw [Option.some.injEq] at same
      subst same
      rw [eq]
      exact List.mem_append_right _ (by rw [is_taken]; exact List.mem_singleton.mpr rfl)
  have grows := (grows_advance (k.advance supply n) supply n).trans (grows_advance _ supply n)
  exact grows.receipts.subset first

end
end Books

namespace Ledger

variable {events : List Event} {m n epoch : Nat} {e : Errand}

/-- Whoever shows the ticket of a fetch polls it. -/
theorem books_attend_of_fetch (here : (run events).errands[m]? = some e)
    (waiting : e.state = .waiting) (ticket : e.ticket = .fetch n epoch) :
    (run (events ++ [.attend m])).books = (run events).books.poll (run events).supply n := by
  rw [run_snoc, step_books, handle, attend_of_waiting _ here waiting, ticket]
  rfl

/-- An answer that has come in is at hand for the fetch that waits for it. -/
theorem answer?_of_lookup {f : Fetch} (here : (run events).books.broker.fetches[n]? = some f)
    {call : Nat} {inquiry : Inquiry} (awaited : f.awaited? = some (call, inquiry)) {a : Answer}
    (came : (run events).answers.lookup call = some a) :
    (run events).books.broker.answer? (run events).supply call = some a := by
  have h := (sound_run events).books
  have slip := (h.awaits here awaited).1
  have logged : (run events).books.broker.calls[call]? = some inquiry := by
    rw [← h.logged, List.getElem?_map, slip]
    rfl
  rw [Broker.answer?, logged, Option.bind_some]
  exact came

end Ledger
end CodeGloss
