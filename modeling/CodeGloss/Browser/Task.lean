import CodeGloss.Broker.Desk
import CodeGloss.Session

/-!
# Tasks

What the browser has the service do while it goes on: find an annotation, find more detail, store the
source.  A task first makes its demand, then waits for the outcome, and at last delivers it.
-/

namespace CodeGloss

open Service (Answer FileRecord Inquiry)

/-- What comes of a task. -/
inductive Delivery where
  /-- The outcome of a request for an annotation. -/
  | gloss (request : Session.Request) (outcome : Resolution.Outcome)
  /-- The outcome of a request for more detail. -/
  | detail (request : Session.Request) (outcome : Resolution.Outcome)
  /-- The file that the source was stored as. -/
  | upload (result : Except Service.Failure FileRecord)

/-- Work that goes on in the background. -/
inductive Task where
  /-- To find an annotation.  There is a ticket once the demand is made. -/
  | gloss (request : Session.Request) (ticket : Option Ticket)
  /-- To find more detail than the current text gives. -/
  | detail (request : Session.Request) (current : String) (ticket : Option Ticket)
  /-- To store a text.  There is the number of the inquiry once it is made. -/
  | upload (name text : String) (call : Option Nat)

namespace Task

/-- The ticket for a demand, which is made now if there is none yet. -/
def ticketed (demand : Broker → Broker × Ticket) (b : Broker) : Option Ticket → Broker × Ticket
  | some ticket => (b, ticket)
  | none => demand b

/-- Takes a task as far as the answers at hand allow. -/
def poll (supply : Supply) (b : Broker) : Task → Broker × (Task ⊕ Delivery)
  | gloss r ticket =>
    let (b, ticket) := ticketed (Broker.resolve r.definition r.fileId) b ticket
    match b.present supply ticket with
    | (b, none) => (b, .inl (gloss r (some ticket)))
    | (b, some outcome) => (b, .inr (.gloss r outcome))
  | detail r current ticket =>
    let (b, ticket) := ticketed (Broker.sayMore r.definition r.fileId current) b ticket
    match b.present supply ticket with
    | (b, none) => (b, .inl (detail r current (some ticket)))
    | (b, some outcome) => (b, .inr (.detail r outcome))
  | upload name text call =>
    let (b, call) := match call with
      | some call => (b, call)
      | none => (b.issue (.upload name text), b.nextCall)
    match b.answer? supply call with
    | none => (b, .inl (upload name text (some call)))
    | some answer => (b, .inr (.upload answer.toFile))

end Task
end CodeGloss
