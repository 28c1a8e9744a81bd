import CodeGloss.Proofs.Broker.Tickets
import Mathlib.Data.List.Induction

/-!
# The ledger of a desk

A desk forgets who has left it.  A ledger keeps every demand that was ever made, with the moment at
which it was made, the ticket that was handed out, and what has become of it (`Errand`).  It runs
through a sequence of events like a desk: files are replaced, demands are made and given up, answers
come in, tickets are shown.

Whoever makes a demand shows the ticket at once, before anything else can happen.  So an event of
the ledger is an event of the desk or, if it is a demand, two of them.

A moment is a number of events.  The ledger at a moment is that of the first so many events
(`Ledger.run`), and what is said about a moment is said about these events only, so that it stays
true when more of them happen.
-/

namespace CodeGloss

open Service (Answer Inquiry)

/-! ## Errands -/

/-- What has become of a demand. -/
inductive Errand.State where
  /-- It still waits. -/
  | waiting
  /-- It was given up. -/
  | givenUp
  /-- It has got its outcome, by the event of that number. -/
  | served (time : Nat) (outcome : Resolution.Outcome)
deriving DecidableEq

/-- A demand with what belongs to it. -/
structure Errand where
  /-- What was demanded. -/
  demand : Demand
  /-- The number of the event by which it was demanded. -/
  start : Nat
  /-- The ticket that was handed out. -/
  ticket : Ticket
  /-- What has become of it. -/
  state : Errand.State := .waiting
deriving DecidableEq

namespace Errand

/-- Gives up an errand that waits. -/
def giveUp (e : Errand) : Errand :=
  match e.state with
  | .waiting => { e with state := .givenUp }
  | _ => e

/-- The errand after its ticket was shown, by the event `time`. -/
def serve (time : Nat) (outcome : Option Resolution.Outcome) (e : Errand) : Errand :=
  match outcome with
  | some outcome => { e with state := .served time outcome }
  | none => e

end Errand

/-- The books of a broker, the answers at hand, and every demand that was made. -/
structure Ledger where
  /-- The books. -/
  books : Books := {}
  /-- The answers, by the numbers of their inquiries, the latest first. -/
  answers : List (Nat × Answer) := []
  /-- The demands; the number of one is its position. -/
  errands : List Errand := []
  /-- How many events there were. -/
  clock : Nat := 0

namespace Ledger

/-! ## Events -/

/-- What can happen. -/
inductive Event where
  /-- Another file is loaded, or none. -/
  | switchFile (fileId : Option String)
  /-- Something is demanded, and the ticket is shown. -/
  | demand (x : Demand)
  /-- The answer to an inquiry comes in. -/
  | answer (call : Nat) (answer : Answer)
  /-- The ticket of a demand that waits is shown. -/
  | attend (n : Nat)
  /-- A demand that waits is given up. -/
  | giveUp (n : Nat)

/-- Whether a file is replaced. -/
def Event.isSwitch : Event → Bool
  | switchFile _ => true
  | _ => false

/-- Whether a demand is given up. -/
def Event.isGiveUp : Event → Bool
  | giveUp _ => true
  | _ => false

/-- The answers at hand. -/
def supply (l : Ledger) : Supply :=
  fun call _ => l.answers.lookup call

/-- Makes a demand; its errand waits. -/
def enter (x : Demand) (l : Ledger) : Ledger :=
  { l with
    books := (l.books.demand x).1
    errands := l.errands ++ [{ demand := x, start := l.clock, ticket := (l.books.demand x).2 }] }

/-- Shows the ticket of an errand, if it waits. -/
def attend (n : Nat) (l : Ledger) : Ledger :=
  match l.errands[n]? with
  | some ⟨_, _, ticket, .waiting⟩ =>
    { l with
      books := (l.books.present l.supply ticket).1
      errands := l.errands.modify n (·.serve l.clock (l.books.present l.supply ticket).2) }
  | _ => l

/-- What an event does, apart from the clock. -/
def handle (l : Ledger) : Event → Ledger
  | .switchFile fileId => { l with books := l.books.switchFile fileId }
  | .demand x => (l.enter x).attend l.errands.length
  | .answer call answer => { l with answers := (call, answer) :: l.answers }
  | .attend n => l.attend n
  | .giveUp n => { l with errands := l.errands.modify n Errand.giveUp }

/-- The ledger after an event. -/
def step (l : Ledger) (event : Event) : Ledger :=
  { l.handle event with clock := l.clock + 1 }

/-- The ledger after a sequence of events. -/
def run (events : List Event) : Ledger :=
  events.foldl step {}

/-- How often a file was replaced. -/
def switches (events : List Event) : Nat :=
  events.countP Event.isSwitch

/-! ## Runs -/

theorem run_snoc (events : List Event) (event : Event) :
    run (events ++ [event]) = (run events).step event := by
  rw [run, List.foldl_append]
  rfl

/-- One moment later. -/
theorem run_take_succ {events : List Event} {i : Nat} {event : Event}
    (here : events[i]? = some event) :
    run (events.take (i + 1)) = (run (events.take i)).step event := by
  rw [List.take_add_one, here, Option.toList_some, run_snoc]

theorem switches_snoc (events : List Event) (event : Event) :
    switches (events ++ [event]) = switches events + if event.isSwitch then 1 else 0 := by
  rw [switches, List.countP_append, List.countP_singleton]
  rfl

/-- Whether a file was replaced after the event `start` and not after the event `time`. -/
def Switched (events : List Event) (start time : Nat) : Prop :=
  ∃ (i : Nat) (fileId : Option String), start < i ∧ i ≤ time ∧
    events[i]? = some (.switchFile fileId)

/-- A file was replaced in between if it was replaced more often at the end. -/
theorem switched_iff {events : List Event} {start time : Nat} (le : start ≤ time) :
    Switched events start time ↔
      switches (events.take (start + 1)) ≠ switches (events.take (time + 1)) := by
  induction le with
  | refl =>
    refine iff_of_false ?_ (by simp)
    rintro ⟨i, fileId, lt, le, -⟩
    omega
  | @step time le ih =>
    change start ≤ time at le
    have later : Switched events start (time + 1) ↔
        Switched events start time ∨ ∃ fileId, events[time + 1]? = some (.switchFile fileId) := by
      constructor
      · rintro ⟨i, fileId, lt, bound, here⟩
        rcases Nat.lt_or_eq_of_le bound with earlier | rfl
        · exact Or.inl ⟨i, fileId, lt, by omega, here⟩
        · exact Or.inr ⟨fileId, here⟩
      · rintro (⟨i, fileId, lt, bound, here⟩ | ⟨fileId, here⟩)
        · exact ⟨i, fileId, lt, by omega, here⟩
        · exact ⟨time + 1, fileId, by omega, Nat.le_refl _, here⟩
    have grows : switches (events.take (start + 1)) ≤ switches (events.take (time + 1)) :=
      List.Sublist.countP_le (List.take_prefix_take_left (by omega)).sublist
    rw [later, ih, List.take_add_one (i := time + 1)]
    cases here : events[time + 1]? with
    | none => simp
    | some event =>
      rw [Option.toList_some, switches_snoc]
      cases event with
      | switchFile fileId =>
        refine iff_of_true (Or.inr ⟨fileId, rfl⟩) ?_
        show _ ≠ _ + 1
        omega
      | _ => simp [Event.isSwitch]

end Ledger
end CodeGloss
