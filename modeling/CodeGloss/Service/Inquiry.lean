import CodeGloss.Service.Client

/-!
# Inquiries

What the rest of the library asks of the annotation service while a source is annotated, and what
the service may answer.  An answer that does not suit its inquiry counts as one with nothing in it.
-/

namespace CodeGloss
namespace Service

/-- Something asked of the service. -/
inductive Inquiry where
  /-- Which annotations a file has. -/
  | list (fileId : String)
  /-- A new annotation for a piece of a file. -/
  | generate (fileId code : String)
  /-- That a file be stored. -/
  | upload (name content : String)
deriving DecidableEq, Repr

/-- What the service may answer. -/
inductive Answer where
  /-- Annotations. -/
  | glosses (glosses : List Gloss)
  /-- The text of an annotation. -/
  | text (text : String)
  /-- A stored file. -/
  | stored (file : FileRecord)
  /-- Nothing of use. -/
  | failed (failure : Failure)
deriving DecidableEq, Repr

namespace Answer

/-- The annotations that an answer gives. -/
def toGlosses : Answer → Except Failure (List Gloss)
  | glosses l => .ok l
  | failed f => .error f
  | _ => .ok []

/-- The text that an answer gives. -/
def toText : Answer → Except Failure String
  | text t => .ok t
  | failed f => .error f
  | _ => .ok ""

/-- The file that an answer gives. -/
def toFile : Answer → Except Failure FileRecord
  | stored r => .ok r
  | failed f => .error f
  | _ => .error (.decode "the answer names no file")

/-- The answer for the outcome of a call. -/
def ofOutcome (answer : α → Answer) : Except Failure α → Answer
  | .ok a => answer a
  | .error f => failed f

end Answer

namespace Inquiry

/-- The request by which a client makes an inquiry, if it can. -/
def request? (client : Client) : Inquiry → Option Request
  | list fileId => (glossesOf fileId).request? client
  | generate fileId code => (annotate fileId code).request? client
  | upload name content => (Service.upload name content).request? client

/-- The answer to an inquiry when a reply comes, or none. -/
def answer (reply : Option Reply) : Inquiry → Answer
  | list fileId => .ofOutcome .glosses ((glossesOf fileId).outcome reply)
  | generate fileId code => .ofOutcome .text ((annotate fileId code).outcome reply)
  | upload name content => .ofOutcome .stored ((Service.upload name content).outcome reply)

end Inquiry

end Service
end CodeGloss
