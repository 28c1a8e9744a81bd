import CodeGloss.Broker.Desk

/-!
# The books of a broker

A broker forgets: of an inquiry it keeps the text but not who made it, and once a fetch has moved on
there is no trace of the answers that it went by.  What may be said about whole runs is said about
these, so the broker is given books that remember.  They hold a slip for every inquiry on the log
(`Books.slips`) and a receipt for every answer that was taken, in the order in which they were taken
(`Books.receipts`).

The books change nothing.  Each operation on them is the operation on the broker, with what it does
written down beside it (`Books.broker_advance`, `Books.broker_present`).

* `Slip`: an inquiry, the key of the fetch that made it, and the epoch in which it was made.
* `Books.replay`: the table that the receipts of the current epoch give when they are entered in
  order.
* `Books.Gave`: a receipt tells a text for a key of a file.
-/

namespace CodeGloss

open Service (Answer Inquiry)

/-! ## Inquiries and fetches -/

namespace Service.Inquiry

/-- The file that an inquiry is about. -/
def fileId? : Inquiry → Option String
  | list fileId => some fileId
  | generate fileId _ => some fileId
  | upload _ _ => none

/-- A table of known texts after the answer to an inquiry that was made for a key.  All annotations
of a list go in, in order; a text goes in under the key; a failure adds nothing. -/
def credit (key : String) (inquiry : Inquiry) (answer : Answer) (t : Table String) :
    Table String :=
  match inquiry with
  | list _ =>
    match answer.toGlosses with
    | .ok glosses => glosses.foldl (fun t a => Table.insert a.name a.text t) t
    | .error _ => t
  | generate _ _ =>
    match answer.toText with
    | .ok text => Table.insert key text t
    | .error _ => t
  | upload _ _ => t

end Service.Inquiry

namespace Fetch

/-- Whether the search is over. -/
def Stage.isOver : Stage → Bool
  | finished _ => true
  | _ => false

/-- The inquiry whose answer a fetch waits for, with its number. -/
def awaited? (f : Fetch) : Option (Nat × Inquiry) :=
  match f.stage with
  | .listing call => some (call, .list f.fileId)
  | .generating call => some (call, .generate f.fileId f.code)
  | _ => none

/-- A fetch that waits is not over. -/
theorem going_of_awaited? {f : Fetch} {call : Nat} {inquiry : Inquiry}
    (awaited : f.awaited? = some (call, inquiry)) : f.stage.isOver = false := by
  cases stage : f.stage with
  | finished outcome =>
    rw [awaited?, stage] at awaited
    cases awaited
  | _ => rfl

end Fetch

/-! ## Slips, receipts and what they say -/

/-- What is written down about an inquiry. -/
structure Slip where
  /-- The inquiry. -/
  inquiry : Inquiry
  /-- The key of the fetch that made it.  A demand for more detail has none. -/
  key : Option String
  /-- The epoch in which it was made. -/
  epoch : Nat
deriving DecidableEq, Repr

/-- A broker with its books. -/
structure Books where
  /-- The broker. -/
  broker : Broker := {}
  /-- One slip for each inquiry on the log. -/
  slips : List Slip := []
  /-- The answers that were taken, in that order, with the numbers of their inquiries. -/
  receipts : List (Nat × Answer) := []

namespace Books

/-- A table of known texts after a receipt.  It counts if the slip of its inquiry has a key and is
of the given epoch. -/
def credit (slips : List Slip) (epoch : Nat) (t : Table String) (receipt : Nat × Answer) :
    Table String :=
  match slips[receipt.1]? with
  | some ⟨inquiry, some key, made⟩ =>
    if made = epoch then inquiry.credit key receipt.2 t else t
  | _ => t

/-- The known texts as the receipts of the current epoch give them. -/
def replay (k : Books) : Table String :=
  k.receipts.foldl (credit k.slips k.broker.epoch) []

/-- Whether an answer to an inquiry, made for a key if the slip has one, tells a text for `key`. -/
def Tells (slip : Slip) (answer : Answer) (key text : String) : Prop :=
  (∃ fileId glosses, slip.inquiry = .list fileId ∧ answer.toGlosses = .ok glosses ∧
    ⟨key, text⟩ ∈ glosses) ∨
  (∃ fileId code, slip.inquiry = .generate fileId code ∧ slip.key = some key ∧
    answer.toText = .ok text)

/-- Whether an answer was taken that tells a text for a key and whose inquiry was about the file. -/
def Gave (k : Books) (fileId key text : String) : Prop :=
  ∃ receipt ∈ k.receipts, ∃ slip, k.slips[receipt.1]? = some slip ∧ slip.key.isSome ∧
    slip.inquiry.fileId? = some fileId ∧ Tells slip receipt.2 key text

/-! ## Operations -/

/-- Puts another broker into the books.  The inquiries that are new on its log get slips. -/
def enter (key : Option String) (b : Broker) (k : Books) : Books :=
  { k with
    broker := b
    slips := k.slips ++ (b.calls.drop k.broker.calls.length).map (⟨·, key, k.broker.epoch⟩) }

/-- The receipt for the answer to an inquiry, if the answer is at hand. -/
def receive (supply : Supply) (call : Nat) (k : Books) : List (Nat × Answer) :=
  ((k.broker.answer? supply call).map (call, ·)).toList

/-- One step of a fetch. -/
def advance (supply : Supply) (n : Nat) (k : Books) : Books :=
  match k.broker.fetches[n]? with
  | none => k
  | some f =>
    { k.enter (some f.key) (k.broker.advance supply n) with
      receipts := k.receipts ++ (f.awaited?.map fun a => k.receive supply a.1).getD [] }

/-- Takes a fetch as far as the answers at hand allow. -/
def poll (supply : Supply) (n : Nat) (k : Books) : Books :=
  ((k.advance supply n).advance supply n).advance supply n

/-- Loads another file, or none. -/
def switchFile (fileId : Option String) (k : Books) : Books :=
  { k with broker := k.broker.switchFile fileId }

/-- Demands the annotation of a definition of a file. -/
def resolve (d : Definition) (fileId : String) (k : Books) : Books × Ticket :=
  ({ k with broker := (k.broker.resolve d fileId).1 }, (k.broker.resolve d fileId).2)

/-- Demands more detail on a definition than its current explanation gives. -/
def sayMore (d : Definition) (fileId current : String) (k : Books) : Books × Ticket :=
  (k.enter none (k.broker.sayMore d fileId current).1, (k.broker.sayMore d fileId current).2)

/-- Shows a ticket. -/
def present (supply : Supply) (k : Books) (ticket : Ticket) :
    Books × Option Resolution.Outcome :=
  match ticket with
  | .ready outcome => (k, some outcome)
  | .fetch n epoch =>
    let k := k.poll supply n
    (k, (k.broker.outcome? n).map (k.broker.current epoch))
  | .call n _ =>
    ({ k with receipts := k.receipts ++ k.receive supply n }, (k.broker.present supply ticket).2)

/-! ## The broker in the books -/

section Broker

variable (supply : Supply) (n : Nat) (k : Books)

theorem broker_advance : (k.advance supply n).broker = k.broker.advance supply n := by
  unfold advance
  cases h : k.broker.fetches[n]? with
  | none => simp only [Broker.advance, h]
  | some f => rfl

theorem broker_poll : (k.poll supply n).broker = k.broker.poll supply n := by
  simp only [poll, Broker.poll, broker_advance]

/-- The books go along with the broker and answer as it does. -/
theorem broker_present (ticket : Ticket) :
    (k.present supply ticket).1.broker = (k.broker.present supply ticket).1 ∧
      (k.present supply ticket).2 = (k.broker.present supply ticket).2 := by
  cases ticket with
  | ready outcome => exact ⟨rfl, rfl⟩
  | fetch n epoch =>
    simp only [present, Broker.present, broker_poll, and_self]
  | call n epoch =>
    refine ⟨?_, rfl⟩
    simp only [present, Broker.present]
    split <;> rfl

end Broker

end Books
end CodeGloss
