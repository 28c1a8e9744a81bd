import CodeGloss.Broker.Demand
import CodeGloss.Text.Quoted

/-!
# The desk

A broker together with those who wait for it and with the answers of the service that have come in.
A run of the desk is a sequence of events in any order: files are replaced, demands are made and
given up, answers come in, tickets are shown.  An answer may come in before its inquiry is made, and
a later one takes the place of an earlier one.

Giving up a demand takes only its ticket away.  The fetch that it waited for stays under way, and
goes on when another demand for its key is made.
-/

namespace CodeGloss

open Service (Answer Inquiry)

namespace Broker

/-- Serves those who wait, in order.  Each either goes on waiting or leaves with an outcome.  Gives
the broker as it is afterwards, those who still wait, and the outcomes of those who do not. -/
def serve (present : Broker → τ → Broker × (τ ⊕ ω)) :
    Broker → List τ → Broker × List τ × List ω
  | b, [] => (b, [], [])
  | b, w :: rest =>
    match present b w with
    | (b, .inl w) =>
      let (b, waiting, done) := serve present b rest
      (b, w :: waiting, done)
    | (b, .inr outcome) =>
      let (b, waiting, done) := serve present b rest
      (b, waiting, outcome :: done)

/-- How a broker is shown: its file, its epoch and the numbers of texts and fetches. -/
def shown (b : Broker) : String :=
  let file := match b.fileId with
    | some fileId => "Some(" ++ Text.quoted fileId ++ ")"
    | none => "None"
  "AnnotationCoordinator \x7b file_id: " ++ file ++ ", epoch: " ++ toString b.epoch ++
    ", entries: " ++ toString b.entries.length ++ ", in_flight: " ++
    toString b.inFlight.length ++ " \x7d"

end Broker

/-- One who waits at the desk. -/
structure Waiter where
  /-- What the waiter is called. -/
  tag : String
  /-- The ticket for the demand. -/
  ticket : Ticket

/-- A broker, those who wait, and the answers at hand. -/
structure Desk where
  /-- The broker. -/
  broker : Broker := {}
  /-- Those who wait, the oldest first. -/
  waiting : List Waiter := []
  /-- The answers, by the numbers of their inquiries, the latest first. -/
  answers : List (Nat × Answer) := []

namespace Desk

/-- What happens at a desk. -/
inductive Event where
  /-- Another file is loaded, or none. -/
  | switchFile (fileId : Option String)
  /-- The annotation of a definition is demanded. -/
  | resolve (tag : String) (d : Definition) (fileId : String)
  /-- More detail on a definition is demanded. -/
  | sayMore (tag : String) (d : Definition) (fileId current : String)
  /-- The answer to an inquiry comes in. -/
  | answer (call : Nat) (answer : Answer)
  /-- The demands of a name are given up. -/
  | drop (tag : String)
  /-- The tickets of a name are shown. -/
  | present (tag : String)
  /-- All tickets are shown. -/
  | settle

/-- The answers at hand. -/
def supply (k : Desk) : Supply :=
  fun call _ => k.answers.lookup call

/-- Adds one who waits. -/
def enter (tag : String) (demanded : Broker × Ticket) (k : Desk) : Desk :=
  { k with broker := demanded.1, waiting := k.waiting ++ [⟨tag, demanded.2⟩] }

/-- Shows the ticket of one who waits, if chosen. -/
def presentOne (supply : Supply) (chosen : String → Bool) (b : Broker) (w : Waiter) :
    Broker × (Waiter ⊕ (String × Resolution.Outcome)) :=
  if chosen w.tag then
    match b.present supply w.ticket with
    | (b, none) => (b, .inl w)
    | (b, some outcome) => (b, .inr (w.tag, outcome))
  else (b, .inl w)

/-- Shows the tickets of those who are chosen, the oldest first. -/
def present (chosen : String → Bool) (k : Desk) : Desk × List (String × Resolution.Outcome) :=
  let (broker, waiting, done) := Broker.serve (presentOne k.supply chosen) k.broker k.waiting
  ({ k with broker, waiting }, done)

/-- The desk after an event, and the outcomes that were given, in order. -/
def step (k : Desk) : Event → Desk × List (String × Resolution.Outcome)
  | .switchFile fileId => ({ k with broker := k.broker.switchFile fileId }, [])
  | .resolve tag d fileId => (k.enter tag (k.broker.resolve d fileId), [])
  | .sayMore tag d fileId current => (k.enter tag (k.broker.sayMore d fileId current), [])
  | .answer call answer => ({ k with answers := (call, answer) :: k.answers }, [])
  | .drop tag => ({ k with waiting := k.waiting.filter (·.tag != tag) }, [])
  | .present tag => k.present (· == tag)
  | .settle => k.present fun _ => true

end Desk
end CodeGloss
