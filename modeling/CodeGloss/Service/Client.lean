import CodeGloss.Service.Failure
import CodeGloss.Service.Record
import CodeGloss.Service.Url

/-!
# Calls to the annotation service

Every operation of the service is a call: the request that it sends under a client's settings, and
the reading of the reply.  A client whose base URL is no URL, or whose token cannot stand in a
header, sends nothing.
-/

namespace CodeGloss
namespace Service

/-! ## Requests and replies -/

/-- A request, as the server sees it. -/
structure Request where
  /-- The method. -/
  method : String
  /-- The path and query. -/
  target : String
  /-- The credentials. -/
  authorization : Option String
  /-- The type of the body. -/
  contentType : Option String
  /-- The body. -/
  body : String
deriving DecidableEq, Repr

/-- A reply of the server. -/
structure Reply where
  /-- The status. -/
  status : Nat
  /-- The body that was sent. -/
  body : String
deriving DecidableEq, Repr

namespace Reply

/-- The body of a reply.  Two statuses never have one. -/
def content (r : Reply) : String :=
  if r.status == 204 || r.status == 304 then "" else r.body

/-- The body of a reply that is a success. -/
def success (r : Reply) : Except Failure String :=
  if isSuccess r.status then .ok r.content else .error (.ofStatus r.status r.content)

/-- The value that a reply gives, read from its JSON body. -/
def decoded (read : Json.Value → Option α) (r : Reply) : Except Failure α := do
  let body ← r.success
  match (Json.read? body).bind read with
  | some value => .ok value
  | none => .error (.decode "the body is not of the expected form")

end Reply

/-! ## Clients -/

/-- How the service is reached. -/
structure Client where
  /-- Where the operations are found. -/
  baseUrl : String
  /-- The credentials. -/
  token : Option String
  /-- What separates the parts of a multipart body. -/
  boundary : String := "BOUNDARY"
deriving DecidableEq, Repr

namespace Client

/-- The client for a base URL, whose trailing slashes do not count, and a token, unless it is
blank. -/
def ofSettings (baseUrl : String) (token : Option String) : Client where
  baseUrl := String.ofList (baseUrl.toList.reverse.dropWhile (· == '/')).reverse
  token := token.filter fun t => !Text.isAllBlank t.toList

/-- Where an operation is found. -/
def url (c : Client) (path : String) : String :=
  c.baseUrl ++ "/" ++ String.ofList (path.toList.dropWhile (· == '/'))

/-- Whether a text can stand in a header: it has no control characters but tabs. -/
def isHeaderText (s : String) : Bool :=
  s.toList.all fun c => c == '\t' || (0x20 ≤ c.toNat && c.toNat != 0x7F)

/-- The credentials that go with every request; `none` if they cannot be sent. -/
def authorization? (c : Client) : Option (Option String) :=
  match c.token with
  | none => some none
  | some token => if isHeaderText token then some (some ("Bearer " ++ token)) else none

/-- The request for a path, if there is one. -/
def request? (c : Client) (method path : String) (change : Url → Url) (contentType : Option String)
    (body : String) : Option Request := do
  let authorization ← c.authorization?
  let url ← Url.read? (c.url path)
  some
    { method := method
      target := String.ofList (change url).target
      authorization := authorization
      contentType := contentType
      body := body }

end Client

/-! ## Calls -/

/-- An operation of the service that answers with an `α`. -/
structure Call (α : Type) where
  /-- The request that is sent, if one can be. -/
  request? : Client → Option Request
  /-- What a reply says. -/
  read : Reply → Except Failure α

/-- The outcome of a call when the given reply comes, or none. -/
def Call.outcome (call : Call α) : Option Reply → Except Failure α
  | some reply => call.read reply
  | none => .error (.transport "no reply")

/-- The name under which a file is uploaded.  A name without a dot gets an extension. -/
def uploadName (name : String) : String :=
  if name.toList.contains '.' then name else name ++ ".txt"

/-- A file name inside the quotes of a header. -/
def quoteFileName (name : String) : String :=
  String.ofList (name.toList.flatMap fun c => if c == '"' || c == '\\' then ['\\', c] else [c])

/-- The body of an upload: the name and the file, as the parts of a form. -/
def multipart (boundary name content : String) : String :=
  "--" ++ boundary ++ "\r\nContent-Disposition: form-data; name=\"name\"\r\n\r\n" ++ name ++
    "\r\n--" ++ boundary ++ "\r\nContent-Disposition: form-data; name=\"file\"; filename=\"" ++
    quoteFileName (uploadName name) ++ "\"\r\nContent-Type: text/plain\r\n\r\n" ++ content ++
    "\r\n--" ++ boundary ++ "--\r\n"

/-- Stores a file. -/
def upload (name content : String) : Call FileRecord where
  request? c :=
    c.request? "POST" "file/upload" id (some ("multipart/form-data; boundary=" ++ c.boundary))
      (multipart c.boundary name content)
  read r := r.decoded Decode.file?

/-- The annotations that the service holds for a file. -/
def glossesOf (fileId : String) : Call (List Gloss) where
  request? c :=
    c.request? "GET" "annotation/generate" (Url.withParameter "file_uuid" fileId) none ""
  read r := r.decoded Decode.glosses?

/-- Makes an annotation for a piece of a file. -/
def annotate (fileId code : String) : Call String where
  request? c :=
    c.request? "POST" "annotation/generate" id (some "application/x-www-form-urlencoded")
      (String.ofList (Form.fields [("file_uuid", fileId), ("code", code)]))
  read r := r.decoded Decode.generated?

/-- Deletes a file. -/
def deleteFile (fileId : String) : Call Unit where
  request? c := c.request? "DELETE" ("file/" ++ fileId) id none ""
  read r := r.success.map fun _ => ()

/-- The files that the service holds. -/
def listFiles : Call (List FileRecord) where
  request? c := c.request? "GET" "file/upload" id none ""
  read r := r.decoded Decode.files?

end Service
end CodeGloss
