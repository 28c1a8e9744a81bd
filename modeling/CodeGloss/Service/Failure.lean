import CodeGloss.Json.Reader
import CodeGloss.Text.Blank

/-!
# Failures of the annotation service

What can go wrong between a request to the service and a usable answer.  A reply whose status is not
a success becomes a failure that carries the service's own message: the `message` of a JSON body, or
the body itself, or the usual phrase for the status.
-/

namespace CodeGloss
namespace Service

/-- Why the service gave no usable answer. -/
inductive Failure where
  /-- The request was malformed. -/
  | validation (reason : String)
  /-- The request lacked credentials. -/
  | unauthorized (reason : String)
  /-- What the request was about is not there. -/
  | notFound (reason : String)
  /-- Any other status that is not a success. -/
  | status (code : Nat) (reason : String)
  /-- No reply came. -/
  | transport (reason : String)
  /-- The reply could not be understood. -/
  | decode (reason : String)
deriving DecidableEq, Repr, Inhabited

/-- The report of a failure. -/
def Failure.message : Failure → String
  | validation reason => "request rejected: " ++ reason
  | unauthorized reason => "unauthorized: " ++ reason
  | notFound reason => "not found: " ++ reason
  | status code reason => "service returned " ++ toString code ++ ": " ++ reason
  | transport reason => "transport error: " ++ reason
  | decode reason => "invalid response: " ++ reason

/-! ## Statuses -/

/-- The registered phrases for statuses. -/
def phrases : List (Nat × String) :=
  [(100, "Continue"), (101, "Switching Protocols"), (102, "Processing"), (200, "OK"),
    (201, "Created"), (202, "Accepted"), (203, "Non Authoritative Information"),
    (204, "No Content"), (205, "Reset Content"), (206, "Partial Content"), (207, "Multi-Status"),
    (208, "Already Reported"), (226, "IM Used"), (300, "Multiple Choices"),
    (301, "Moved Permanently"), (302, "Found"), (303, "See Other"), (304, "Not Modified"),
    (305, "Use Proxy"), (307, "Temporary Redirect"), (308, "Permanent Redirect"),
    (400, "Bad Request"), (401, "Unauthorized"), (402, "Payment Required"), (403, "Forbidden"),
    (404, "Not Found"), (405, "Method Not Allowed"), (406, "Not Acceptable"),
    (407, "Proxy Authentication Required"), (408, "Request Timeout"), (409, "Conflict"),
    (410, "Gone"), (411, "Length Required"), (412, "Precondition Failed"),
    (413, "Payload Too Large"), (414, "URI Too Long"), (415, "Unsupported Media Type"),
    (416, "Range Not Satisfiable"), (417, "Expectation Failed"), (418, "I'm a teapot"),
    (421, "Misdirected Request"), (422, "Unprocessable Entity"), (423, "Locked"),
    (424, "Failed Dependency"), (425, "Too Early"), (426, "Upgrade Required"),
    (428, "Precondition Required"), (429, "Too Many Requests"),
    (431, "Request Header Fields Too Large"), (451, "Unavailable For Legal Reasons"),
    (500, "Internal Server Error"), (501, "Not Implemented"), (502, "Bad Gateway"),
    (503, "Service Unavailable"), (504, "Gateway Timeout"), (505, "HTTP Version Not Supported"),
    (506, "Variant Also Negotiates"), (507, "Insufficient Storage"), (508, "Loop Detected"),
    (510, "Not Extended"), (511, "Network Authentication Required")]

/-- The phrase for a status. -/
def phrase (code : Nat) : String :=
  (phrases.lookup code).getD "request failed"

/-- The message that a body gives: a record with the one field `message`. -/
def bodyMessage? (body : String) : Option String := do
  let v ← Json.read? body
  let fields ← v.fields? ["message"] 1
  match fields with
  | [some m] => m.text?
  | _ => none

/-- The reason that a reply gives for its failure. -/
def reasonOf (code : Nat) (body : String) : String :=
  let reason := (bodyMessage? body).getD (Text.trimmed body)
  if reason.isEmpty then phrase code else reason

/-- The failure that a reply with the status `code` reports. -/
def Failure.ofStatus (code : Nat) (body : String) : Failure :=
  let reason := reasonOf code body
  if code == 400 then .validation reason
  else if code == 401 then .unauthorized reason
  else if code == 404 then .notFound reason
  else .status code reason

/-- Whether a status is a success. -/
def isSuccess (code : Nat) : Bool :=
  200 ≤ code && code < 300

end Service
end CodeGloss
