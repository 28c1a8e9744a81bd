import CodeGloss.Broker.Resolution
import CodeGloss.Definition
import CodeGloss.Service.Inquiry
import CodeGloss.Table

/-!
# The broker and its fetches

A broker finds the annotations of one file.  It keeps the texts that are known, by the annotation
keys of their definitions, and for each key whose text is being looked for one fetch: first the
service is asked for all annotations that it has for the file, and if the key is not among them, for
a new one.

Nothing waits inside the broker.  An inquiry is put on a log under the next number, and when a fetch
is polled it goes as far as the answers at hand allow (`Broker.poll`).  Loading another file starts a
new epoch: what is known is dropped, and a fetch of an earlier epoch changes nothing any more except
its own stage.
-/

namespace CodeGloss

open Service (Answer Inquiry)

/-- How far a fetch has come. -/
inductive Fetch.Stage where
  /-- Nothing was asked yet. -/
  | fresh
  /-- The annotations of the file were asked for, under a number. -/
  | listing (call : Nat)
  /-- A new annotation was asked for, under a number. -/
  | generating (call : Nat)
  /-- The search is over. -/
  | finished (outcome : Resolution.Outcome)

/-- A search for one annotation. -/
structure Fetch where
  /-- The key of the annotation. -/
  key : String
  /-- The text of the definition. -/
  code : String
  /-- The file that it belongs to. -/
  fileId : String
  /-- The epoch in which the search began. -/
  epoch : Nat
  /-- How far the search has come. -/
  stage : Fetch.Stage := .fresh

/-- The answers at hand, by the number of the inquiry on the log and the inquiry itself. -/
abbrev Supply := Nat → Inquiry → Option Answer

/-- What is known about the annotations of a file, and what is being looked for. -/
structure Broker where
  /-- The file, if one is loaded. -/
  fileId : Option String := none
  /-- How often the file was replaced. -/
  epoch : Nat := 0
  /-- The known texts, by key. -/
  entries : Table String := []
  /-- The numbers of the fetches that are under way, by key. -/
  inFlight : Table Nat := []
  /-- Every fetch there has been; its number is its position. -/
  fetches : List Fetch := []
  /-- Every inquiry there has been; its number is its position. -/
  calls : List Inquiry := []

namespace Broker

/-! ## Files -/

/-- Loads another file, or none.  Everything known or looked for is dropped. -/
def switchFile (fileId : Option String) (b : Broker) : Broker :=
  { b with fileId, epoch := b.epoch + 1, entries := [], inFlight := [] }

/-! ## The log -/

/-- The number that the next inquiry gets. -/
def nextCall (b : Broker) : Nat :=
  b.calls.length

/-- Puts an inquiry on the log. -/
def issue (inquiry : Inquiry) (b : Broker) : Broker :=
  { b with calls := b.calls ++ [inquiry] }

/-- The answer to an inquiry, if it is at hand. -/
def answer? (supply : Supply) (b : Broker) (call : Nat) : Option Answer :=
  b.calls[call]?.bind (supply call)

/-! ## What is known -/

/-- The known text for a definition. -/
def get? (b : Broker) (d : Definition) : Option String :=
  Table.get? b.entries d.glossKey

/-- Adds annotations of the service to what is known.  Of two with one name the later one counts. -/
def adopt (glosses : List Service.Gloss) (b : Broker) : Broker :=
  { b with entries := glosses.foldl (fun t a => Table.insert a.name a.text t) b.entries }

/-- What a broker may have for a definition. -/
inductive State where
  /-- Nothing. -/
  | absent
  /-- A fetch that is under way. -/
  | resolving
  /-- A text. -/
  | resolved
deriving DecidableEq, Repr

/-- What the broker has for a definition. -/
def state (b : Broker) (d : Definition) : State :=
  if (b.get? d).isSome then .resolved
  else if (Table.get? b.inFlight d.glossKey).isSome then .resolving
  else .absent

/-! ## Fetches -/

/-- Moves a fetch to a stage. -/
def moveFetch (n : Nat) (stage : Fetch.Stage) (b : Broker) : Broker :=
  { b with fetches := b.fetches.modify n fun f => { f with stage } }

/-- Puts an inquiry on the log for a fetch, which then waits for the answer. -/
def ask (n : Nat) (inquiry : Inquiry) (stage : Nat → Fetch.Stage) (b : Broker) : Broker :=
  (b.issue inquiry).moveFetch n (stage b.nextCall)

/-- Ends a fetch.  In its own epoch it is then no longer under way. -/
def finish (n : Nat) (f : Fetch) (outcome : Resolution.Outcome) (b : Broker) : Broker :=
  let b := b.moveFetch n (.finished outcome)
  if b.epoch = f.epoch then { b with inFlight := Table.erase b.inFlight f.key } else b

/-- Goes on with a fetch when the service has said which annotations the file has. -/
def takeList (n : Nat) (f : Fetch) (glosses : List Service.Gloss) (b : Broker) : Broker :=
  if b.epoch = f.epoch then
    let b := b.adopt glosses
    match Table.get? b.entries f.key with
    | some text => b.finish n f (.ok (.listed text))
    | none => b.ask n (.generate f.fileId f.code) .generating
  else b.finish n f (.ok .stale)

/-- Goes on with a fetch when the service has made an annotation. -/
def takeText (n : Nat) (f : Fetch) (text : String) (b : Broker) : Broker :=
  if b.epoch = f.epoch then
    { b with entries := Table.insert f.key text b.entries }.finish n f (.ok (.generated text))
  else b.finish n f (.ok .stale)

/-- One step of a fetch.  Without the answer that it waits for, and when it is over, nothing
changes. -/
def advance (supply : Supply) (n : Nat) (b : Broker) : Broker :=
  match b.fetches[n]? with
  | none => b
  | some f =>
    match f.stage with
    | .fresh => b.ask n (.list f.fileId) .listing
    | .listing call =>
      match (b.answer? supply call).map Answer.toGlosses with
      | none => b
      | some (.ok glosses) => b.takeList n f glosses
      | some (.error failure) => b.finish n f (.error failure)
    | .generating call =>
      match (b.answer? supply call).map Answer.toText with
      | none => b
      | some (.ok text) => b.takeText n f text
      | some (.error failure) => b.finish n f (.error failure)
    | .finished _ => b

/-- Takes a fetch as far as the answers at hand allow.  There are three steps to a fetch. -/
def poll (supply : Supply) (n : Nat) (b : Broker) : Broker :=
  ((b.advance supply n).advance supply n).advance supply n

/-- The outcome of a fetch that is over. -/
def outcome? (b : Broker) (n : Nat) : Option Resolution.Outcome :=
  match (b.fetches[n]?).map Fetch.stage with
  | some (.finished outcome) => some outcome
  | _ => none

end Broker
end CodeGloss
