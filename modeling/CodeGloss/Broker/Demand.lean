import CodeGloss.Broker.Fetch
import CodeGloss.Text.Blank

/-!
# Demands on the broker

Two things can be demanded of a broker: the annotation of a definition (`Broker.resolve`), and more
detail on one (`Broker.sayMore`).  A demand is answered with a ticket, which is shown again and again
(`Broker.present`) until the outcome is there.  Demands for one key share the fetch that is under
way, and the fetch goes on when any of their tickets is shown.

A ticket remembers the epoch of its demand.  If the file has been replaced since, its outcome is
`Resolution.stale`, whatever the fetch has come to.  Details are neither kept nor shared.
-/

namespace CodeGloss

open Service (Answer Inquiry)

/-- What is handed out for a demand. -/
inductive Ticket where
  /-- The outcome is there. -/
  | ready (outcome : Resolution.Outcome)
  /-- The outcome is that of a fetch, unless the epoch is another one by then. -/
  | fetch (n : Nat) (epoch : Nat)
  /-- The outcome is the answer to an inquiry, unless the epoch is another one by then. -/
  | call (n : Nat) (epoch : Nat)

namespace Broker

/-- Whether a file other than the given one is loaded. -/
def isElsewhere (b : Broker) (fileId : String) : Bool :=
  b.fileId.any (· != fileId)

/-- Demands the annotation of a definition of a file.  If no file is loaded this one is from now
on. -/
def resolve (d : Definition) (fileId : String) (b : Broker) : Broker × Ticket :=
  if b.isElsewhere fileId then (b, .ready (.ok .stale))
  else
    let b := { b with fileId := some fileId }
    match b.get? d with
    | some text => (b, .ready (.ok (.cached text)))
    | none =>
      match Table.get? b.inFlight d.glossKey with
      | some n => (b, .fetch n b.epoch)
      | none =>
        let n := b.fetches.length
        let f : Fetch := { key := d.glossKey, code := d.text, fileId, epoch := b.epoch }
        ({ b with
            fetches := b.fetches ++ [f]
            inFlight := Table.insert d.glossKey n b.inFlight },
          .fetch n b.epoch)

/-- The text that asks for more detail than a current explanation gives. -/
def followUp (d : Definition) (current : String) : String :=
  d.text ++ "\n\nCurrent explanation of " ++ d.name ++ ":\n" ++ Text.trimmed current ++
    "\n\nExplain " ++ d.name ++ " in more detail."

/-- Demands more detail on a definition than its current explanation gives. -/
def sayMore (d : Definition) (fileId current : String) (b : Broker) : Broker × Ticket :=
  if b.isElsewhere fileId then (b, .ready (.ok .stale))
  else (b.issue (.generate fileId (followUp d current)), .call b.nextCall b.epoch)

/-- The outcome for a demand of an epoch. -/
def current (b : Broker) (epoch : Nat) (outcome : Resolution.Outcome) : Resolution.Outcome :=
  if b.epoch = epoch then outcome else .ok .stale

/-- Shows a ticket.  There is an outcome once the answers at hand suffice for one. -/
def present (supply : Supply) (b : Broker) : Ticket → Broker × Option Resolution.Outcome
  | .ready outcome => (b, some outcome)
  | .fetch n epoch =>
    let b := b.poll supply n
    (b, (b.outcome? n).map (b.current epoch))
  | .call n epoch =>
    match (b.answer? supply n).map Answer.toText with
    | none => (b, none)
    | some (.error failure) => (b, some (.error failure))
    | some (.ok text) => (b, some (b.current epoch (.ok (.generated text))))

/-- What becomes of a demand when the service answers at once. -/
def conclude (service : Nat → Inquiry → Answer) (demanded : Broker × Ticket) :
    Broker × Resolution.Outcome :=
  let (b, outcome) := demanded.1.present (fun call inquiry => some (service call inquiry)) demanded.2
  (b, outcome.getD (.error (.transport "no answer")))

end Broker
end CodeGloss
