import CodeGloss.Proofs.Broker.LedgerSound

/-!
# Demands for more detail

A demand for more detail goes past all that a broker keeps.  It takes no file for the loaded one,
opens no fetch and makes nothing known; whatever becomes of it, the log is the only thing that it
leaves behind (`Ledger.details_stand_apart`).

What it is served with depends on the answer to its one inquiry, and on whether a file was replaced
while it waited.  A text is worth nothing for another file, so whoever has waited while one was
replaced is told so.  That is how a demand for an annotation is treated too, but there a failure is
treated like a text, and here it is not: a failure is passed on, whichever file is loaded by then
(`Ledger.detail_failure_crosses_files`).

A ticket for more detail can be shown as often as one likes, as the broker is not touched by it.  So
the outcome of a demand is the one that its ticket shows right after the demand was served
(`Errand.Handed`).
-/

namespace CodeGloss

open Service (Answer Inquiry)

/-! ## Tickets for more detail -/

namespace Broker

/-- Showing a ticket for more detail does nothing to the broker. -/
theorem present_call (supply : Supply) (b : Broker) (call epoch : Nat) :
    (b.present supply (.call call epoch)).1 = b := by
  simp only [present]
  split <;> rfl

/-- The outcome that a ticket for more detail shows is there by an answer to its inquiry: the
failure, or the text if the epoch has not changed. -/
theorem outcome_of_call {supply : Supply} {b : Broker} {call epoch : Nat}
    {outcome : Resolution.Outcome}
    (given : (b.present supply (.call call epoch)).2 = some outcome) :
    ∃ a, b.answer? supply call = some a ∧
      (∀ failure, a.toText = .error failure → outcome = .error failure) ∧
      ∀ text, a.toText = .ok text → outcome = b.current epoch (.ok (.generated text)) := by
  simp only [present] at given
  cases a? : b.answer? supply call with
  | none =>
    rw [a?] at given
    cases given
  | some a =>
    refine ⟨a, rfl, ?_⟩
    rw [a?, Option.map_some] at given
    cases said : a.toText with
    | error failure =>
      rw [said] at given
      cases given
      refine ⟨fun _ same => ?_, fun _ same => ?_⟩
      · rw [Except.error.inj same]
      · cases same
    | ok text =>
      rw [said] at given
      cases given
      refine ⟨fun _ same => ?_, fun _ same => ?_⟩
      · cases same
      · rw [Except.ok.inj same]

/-- With an answer at hand a ticket for more detail shows an outcome. -/
theorem exists_outcome_of_answer? {supply : Supply} {b : Broker} {call : Nat} {a : Answer}
    (given : b.answer? supply call = some a) (epoch : Nat) :
    ∃ outcome, (b.present supply (.call call epoch)).2 = some outcome := by
  simp only [present, given, Option.map_some]
  cases a.toText with
  | error failure => exact ⟨_, rfl⟩
  | ok text => exact ⟨_, rfl⟩

/-- A demand for more detail of the file that is loaded, or while none is, makes one inquiry. -/
theorem sayMore_of_here {b : Broker} {fileId : String} (here : b.isElsewhere fileId = false)
    (d : Definition) (current : String) :
    b.sayMore d fileId current =
      (b.issue (.generate fileId (followUp d current)), .call b.nextCall b.epoch) := by
  simp only [sayMore, here, Bool.false_eq_true, if_false]

/-- One of another file makes none. -/
theorem sayMore_of_elsewhere {b : Broker} {fileId : String} (apart : b.isElsewhere fileId = true)
    (d : Definition) (current : String) :
    b.sayMore d fileId current = (b, .ready (.ok .stale)) := by
  simp only [sayMore, apart, if_true]

end Broker

namespace Books

/-- A ticket for more detail leaves the broker of the books as it is. -/
theorem broker_present_call (k : Books) (supply : Supply) (call epoch : Nat) :
    (k.present supply (.call call epoch)).1.broker = k.broker := by
  rw [(broker_present supply k _).1, Broker.present_call]

/-- A ticket that is no ticket of a fetch leaves the broker as it is when it is shown. -/
theorem broker_present_of_detail (k : Books) (supply : Supply) (b : Broker) (d : Definition)
    (fileId current : String) :
    (k.present supply (b.sayMore d fileId current).2).1.broker = k.broker := by
  unfold Broker.sayMore
  split
  · rfl
  · exact broker_present_call k supply _ _

end Books

/-! ## What errands have been handed -/

/-- What holds of an errand in every run besides `Errand.Sound`.  Its ticket is the one that its
demand was answered with; and if that is one for more detail and the errand was served, the ticket
still showed the outcome right after. -/
structure Errand.Handed (events : List Ledger.Event) (e : Errand) : Prop where
  ticket : e.ticket = ((Ledger.run (events.take e.start)).books.demand e.demand).2
  shows : ∀ {call epoch time : Nat} {outcome : Resolution.Outcome}, e.ticket = .call call epoch →
    e.state = .served time outcome →
      ((Ledger.run (events.take (time + 1))).books.broker.present
        (Ledger.run (events.take (time + 1))).supply e.ticket).2 = some outcome

namespace Errand

variable {events : List Ledger.Event} {e : Errand}

theorem Handed.snoc (h : e.Handed events) (sound : e.Sound events) (event : Ledger.Event) :
    e.Handed (events ++ [event]) where
  ticket := by
    rw [List.take_append_of_le_length (Nat.le_of_lt sound.start_lt)]
    exact h.ticket
  shows ticket served := by
    rw [List.take_append_of_le_length (sound.served served).2.1]
    exact h.shows ticket served

/-- An errand that was given up has no outcome, -/
theorem Handed.giveUp (h : e.Handed events) : e.giveUp.Handed events := by
  unfold Errand.giveUp
  split
  next waiting => exact ⟨h.ticket, fun _ served => by cases served⟩
  next => exact h

/-- and one that is served has the outcome that its ticket shows. -/
theorem Handed.serve
    (ticket : e.ticket = ((Ledger.run (events.take e.start)).books.demand e.demand).2)
    (waiting : e.state = .waiting) {time : Nat} (last : time + 1 = events.length)
    {given : Option Resolution.Outcome}
    (shows : ∀ call epoch, e.ticket = .call call epoch →
      ((Ledger.run events).books.broker.present (Ledger.run events).supply e.ticket).2 = given) :
    (e.serve time given).Handed events := by
  cases given with
  | none =>
    refine ⟨ticket, fun _ served => ?_⟩
    rw [Errand.serve, waiting] at served
    cases served
  | some outcome =>
    refine ⟨ticket, fun {call epoch _ _} for_ served => ?_⟩
    cases served
    rw [last, List.take_length]
    exact shows call epoch for_

end Errand

namespace Ledger

/-- **Every errand has been handed** what its demand was answered with. -/
theorem handed_run (events : List Event) : ∀ e ∈ (run events).errands, e.Handed events := by
  induction events using List.reverseRecOn with
  | nil => simp [run]
  | append_singleton events event ih =>
    have h := sound_run events
    have old : ∀ e ∈ (run events).errands, e.Handed (events ++ [event]) := fun e mem =>
      (ih e mem).snoc (h.errands e mem) event
    have last : (run events).clock + 1 = (events ++ [event]).length := by
      rw [h.clock, List.length_append, List.length_singleton]
    intro e mem
    rw [run_snoc] at mem
    change e ∈ ((run events).handle event).errands at mem
    cases event with
    | switchFile fileId => exact old e mem
    | answer call a => exact old e mem
    | giveUp n =>
      rcases mem_modify_cases mem with mem | ⟨e', here, rfl⟩
      · exact old e mem
      · exact (old e' (List.mem_of_getElem? here)).giveUp
    | attend n =>
      rcases (run events).attend_cases n with same | ⟨e', here, waiting, eq⟩
      · rw [handle, same] at mem
        exact old e mem
      · rw [handle, eq] at mem
        rcases mem_modify_cases mem with mem | ⟨e'', there, rfl⟩
        · exact old e mem
        · rw [here, Option.some.injEq] at there
          subst there
          have handed := old e' (List.mem_of_getElem? here)
          refine .serve handed.ticket waiting last fun call epoch ticket => ?_
          rw [run_snoc, step_books, step_supply, handle, eq, ticket, Books.broker_present_call]
          rfl
    | demand x =>
      rw [handle_demand, List.mem_append, List.mem_singleton] at mem
      rcases mem with mem | rfl
      · exact old e mem
      · refine .serve ?_ rfl last fun call epoch ticket => ?_
        · show _ = (Books.demand x (run ((events ++ [Event.demand x]).take _)).books).2
          rw [h.clock, List.take_left]
        · rw [run_snoc, step_books, step_supply, handle_demand]
          dsimp only at ticket ⊢
          rw [ticket, Books.broker_present_call]
          rfl

/-! ## What a demand for more detail does -/

section

variable {events : List Event} {d : Definition} {fileId current : String}

/-- The broker after a demand for more detail. -/
theorem broker_demand_detail {i : Nat}
    (here : events[i]? = some (.demand (.detail d fileId current))) :
    (run (events.take (i + 1))).books.broker =
      ((run (events.take i)).books.broker.sayMore d fileId current).1 := by
  rw [run_take_succ here, step_books, handle_demand]
  exact Books.broker_present_of_detail _ _ _ d fileId current

/-- A demand for more detail touches nothing but the log. -/
theorem only_calls_sayMore (b : Broker) :
    (b.sayMore d fileId current).1 = { b with calls := (b.sayMore d fileId current).1.calls } := by
  unfold Broker.sayMore
  split <;> rfl

variable {n : Nat} {e : Errand} (here : (run events).errands[n]? = some e)
  (demanded : e.demand = .detail d fileId current)
include here demanded

/-- The ticket of a demand for more detail is the one that it was answered with. -/
theorem ticket_of_detail :
    e.ticket = ((run (events.take e.start)).books.broker.sayMore d fileId current).2 := by
  rw [(handed_run events e (List.mem_of_getElem? here)).ticket, demanded]
  rfl

/-- Nobody who shows the ticket of a demand for more detail, or gives it up, touches the broker. -/
theorem broker_attend_detail {i : Nat}
    (about : events[i]? = some (.attend n) ∨ events[i]? = some (.giveUp n)) :
    (run (events.take (i + 1))).books.broker = (run (events.take i)).books.broker := by
  rcases about with about | about
  · rw [run_take_succ about, step_books, handle]
    rcases (run (events.take i)).attend_cases n with same | ⟨e', there, -, eq⟩
    · rw [same]
    · have le : i ≤ events.length := Nat.le_of_lt (List.getElem?_eq_some_iff.mp about).1
      obtain ⟨e'', here', -, ticket⟩ := errand_run le there
      rw [List.take_length, here, Option.some.injEq] at here'
      subst here'
      rw [eq, ← ticket, ticket_of_detail here demanded]
      exact Books.broker_present_of_detail _ _ _ d fileId current
  · rw [run_take_succ about]
    rfl

/-- What a demand for more detail is served with. -/
theorem served_of_detail
    (apart : (run (events.take e.start)).books.broker.isElsewhere fileId = false) {time : Nat}
    {outcome : Resolution.Outcome} (served : e.state = .served time outcome) :
    ∃ a, (run (events.take (time + 1))).answers.lookup
          (run (events.take e.start)).books.broker.calls.length = some a ∧
      (∀ failure, a.toText = .error failure → outcome = .error failure) ∧
      ∀ text, a.toText = .ok text →
        (¬Switched events e.start time → outcome = .ok (.generated text)) ∧
        (Switched events e.start time → outcome = .ok .stale) := by
  have mem := List.mem_of_getElem? here
  have sound := (sound_run events).errands e mem
  obtain ⟨le, lt, -⟩ := sound.served served
  have ticket := ticket_of_detail here demanded
  rw [Broker.sayMore_of_here apart] at ticket
  have shows := (handed_run events e mem).shows ticket served
  rw [ticket] at shows
  obtain ⟨a, given, failed, told⟩ := Broker.outcome_of_call shows
  -- The epoch of the ticket is the one right after the demand.
  have made := sound.made
  rw [demanded] at made
  have epoch : (run (events.take (e.start + 1))).books.broker.epoch =
      (run (events.take e.start)).books.broker.epoch := by
    rw [broker_demand_detail made, only_calls_sayMore]
  refine ⟨a, ?_, failed, fun text said => ⟨fun still => ?_, fun switched => ?_⟩⟩
  · obtain ⟨inquiry, -, given⟩ := Option.bind_eq_some_iff.mp given
    exact given
  · rw [switched_iff_epoch events le, not_not, epoch] at still
    rw [told text said, Broker.current, if_pos still.symm]
  · rw [switched_iff_epoch events le, epoch] at switched
    rw [told text said, Broker.current, if_neg switched.symm]

/-- A demand for more detail is served when its ticket is shown and the answer is at hand. -/
theorem attend_detail
    (apart : (run (events.take e.start)).books.broker.isElsewhere fileId = false)
    (waiting : e.state = .waiting) {a : Answer}
    (given : (run events).answers.lookup
      (run (events.take e.start)).books.broker.calls.length = some a) :
    ∃ outcome, (run (events ++ [.attend n])).errands[n]? =
      some { e with state := .served events.length outcome } := by
  have h := sound_run events
  have mem := List.mem_of_getElem? here
  have ticket := ticket_of_detail here demanded
  rw [Broker.sayMore_of_here apart] at ticket
  have issued := (h.errands e mem).issued
  rw [demanded, ticket] at issued
  have logged : ∃ inquiry, (run events).books.broker.calls[
      (run (events.take e.start)).books.broker.calls.length]? = some inquiry := by
    obtain ⟨s, there, -⟩ := issued.detail (h.grows mem) _ _ rfl
    refine ⟨s.inquiry, ?_⟩
    rw [← h.books.logged, List.getElem?_map]
    exact congrArg _ there
  obtain ⟨inquiry, logged⟩ := logged
  have at_hand : (run events).books.broker.answer? (run events).supply
      (run (events.take e.start)).books.broker.calls.length = some a := by
    rw [Broker.answer?, logged]
    exact given
  obtain ⟨outcome, shows⟩ := Broker.exists_outcome_of_answer? at_hand
    (run (events.take e.start)).books.broker.epoch
  refine ⟨outcome, ?_⟩
  have given : ((run events).books.present (run events).supply e.ticket).2 = some outcome := by
    rw [ticket]
    exact shows
  rw [run_snoc]
  show ((run events).attend n).errands[n]? = _
  rw [attend_of_waiting _ here waiting]
  dsimp only
  rw [List.getElem?_modify_eq, here, given, h.clock]
  rfl

end

/-- **Details stand apart.**  Let more detail be demanded in any run.

* The demand changes nothing of the broker but the log, and to show the ticket or to give it up
  changes nothing at all.
* If another file is loaded, nothing is asked, and the demand is served at once by being told so.
* Otherwise one annotation is asked for.  If the demand is served, it is by an answer to that
  inquiry which is at hand.  A failure is passed on.  A text is passed on if no file was replaced
  since the demand, and otherwise the demand is told that one was.
* While it waits, it is served when its ticket is shown and the answer is at hand. -/
theorem details_stand_apart (events : List Event) {n : Nat} {e : Errand}
    (here : (run events).errands[n]? = some e) {d : Definition} {fileId current : String}
    (demanded : e.demand = .detail d fileId current) :
    let before := (run (events.take e.start)).books.broker
    let after := (run (events.take (e.start + 1))).books.broker
    events[e.start]? = some (.demand (.detail d fileId current)) ∧
      (after = { before with calls := after.calls } ∧
        ∀ i, events[i]? = some (.attend n) ∨ events[i]? = some (.giveUp n) →
          (run (events.take (i + 1))).books.broker = (run (events.take i)).books.broker) ∧
      (before.isElsewhere fileId = true →
        after.calls = before.calls ∧ e.state = .served e.start (.ok .stale)) ∧
      (before.isElsewhere fileId = false →
        after.calls = before.calls ++ [.generate fileId (Broker.followUp d current)] ∧
        (∀ time outcome, e.state = .served time outcome →
          e.start ≤ time ∧ time < events.length ∧
          ∃ a, .answer before.calls.length a ∈ events.take (time + 1) ∧
            (run (events.take (time + 1))).answers.lookup before.calls.length = some a ∧
            (∀ failure, a.toText = .error failure → outcome = .error failure) ∧
            ∀ text, a.toText = .ok text →
              (¬Switched events e.start time → outcome = .ok (.generated text)) ∧
              (Switched events e.start time → outcome = .ok .stale)) ∧
        ∀ a, e.state = .waiting → (run events).answers.lookup before.calls.length = some a →
          ∃ outcome, (run (events ++ [.attend n])).errands[n]? =
            some { e with state := .served events.length outcome }) := by
  intro before after
  have sound := (sound_run events).errands e (List.mem_of_getElem? here)
  have made := sound.made
  rw [demanded] at made
  have ticket := ticket_of_detail here demanded
  have eq : after = (before.sayMore d fileId current).1 := broker_demand_detail made
  refine ⟨made, ⟨?_, fun i => broker_attend_detail here demanded⟩, fun apart => ?_,
    fun at_home => ?_⟩
  · rw [eq]
    exact only_calls_sayMore before
  · rw [Broker.sayMore_of_elsewhere apart] at eq ticket
    exact ⟨congrArg Broker.calls eq, sound.ready ticket⟩
  · refine ⟨?_, fun time outcome served => ?_, fun a waiting given => ?_⟩
    · rw [eq, Broker.sayMore_of_here at_home]
      rfl
    · obtain ⟨le, lt, -⟩ := sound.served served
      obtain ⟨a, given, rest⟩ := served_of_detail here demanded at_home served
      refine ⟨le, lt, a, ?_, given, rest⟩
      have supplied : (run (events.take (time + 1))).supply before.calls.length
          (.generate fileId (Broker.followUp d current)) = some a := given
      exact (sound_run _).supplied supplied
    · exact attend_detail here demanded at_home waiting given

/-- In this run a file is loaded, more detail is demanded, and the service tells a text. -/
theorem details_stand_apart_told :
    let d : Definition :=
      { kind := .function, name := "a", firstLine := 1, lastLine := 1, text := "" }
    let events : List Event :=
      [.switchFile (some "f"), .demand (.detail d "f" "x"), .answer 0 (.text "t"), .attend 0]
    let e : Errand :=
      { demand := .detail d "f" "x"
        start := 1
        ticket := .call 0 1
        state := .served 3 (.ok (.generated "t")) }
    (run events).errands[0]? = some e ∧
      (run (events.take 2)).books.broker.calls = [.generate "f" (Broker.followUp d "x")] ∧
      (run events).books.broker = (run (events.take 3)).books.broker := by
  intro d events e
  have here : (run events).errands[0]? = some e := by decide
  obtain ⟨-, ⟨-, kept⟩, -, asked⟩ := details_stand_apart events here rfl
  exact ⟨here, (asked (by decide)).1, kept 3 (.inl rfl)⟩

/-- A failure is passed on although the file was replaced in the meantime, and whoever had demanded
the annotation instead would have been told so. -/
theorem detail_failure_crosses_files :
    let d : Definition :=
      { kind := .function, name := "a", firstLine := 1, lastLine := 1, text := "" }
    let failed : Answer := .failed (.transport "down")
    let events : Demand → List Event := fun x =>
      [.switchFile (some "f"), .demand x, .switchFile (some "g"), .answer 0 failed, .attend 0]
    (run (events (.detail d "f" "x"))).errands.map Errand.state =
        [.served 4 (.error (.transport "down"))] ∧
      Switched (events (.detail d "f" "x")) 1 4 ∧
      (run (events (.gloss d "f"))).errands.map Errand.state = [.served 4 (.ok .stale)] := by
  intro d failed events
  exact ⟨by decide, ⟨2, some "g", by omega, by omega, rfl⟩, by decide⟩

end Ledger
end CodeGloss
