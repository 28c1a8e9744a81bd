import CodeGloss.Service.Form
import CodeGloss.Text.Blank
import CodeGloss.Text.Word

/-!
# URLs

Reads the URLs of HTTP and says what a request for one of them asks the server for, which is the same
whether the connection is secured or not.  Control characters and blanks around a URL are dropped, as
are tabs and line breaks within.  A backslash is a slash.  In the path a dot stands for nothing and a double dot takes the segment before it away, also
where they are written as percent signs with digits; empty segments count.  What follows a number
sign is not sent.

* `Url.read?`: the URL that a text spells, if it is one.
* `Url.target`: the path and query that a request line holds.
* `Url.withParameter`: one more parameter in the query.
-/

namespace CodeGloss
namespace Service

/-- A URL of HTTP, ready to be sent. -/
structure Url where
  /-- The server, with its port if one is given. -/
  authority : List Char
  /-- The segments of the path, encoded. -/
  segments : List (List Char)
  /-- The query, encoded. -/
  query : Option (List Char)
deriving DecidableEq, Repr

namespace Url

/-! ## Characters -/

/-- A control character or a blank. -/
def isControl (c : Char) : Bool :=
  c.toNat ≤ 0x20

/-- A character that has to be encoded wherever it stands. -/
def isUnsafe (c : Char) : Bool :=
  c.toNat ≤ 0x20 || 0x7F ≤ c.toNat || ['"', '<', '>'].contains c

/-- A character that stands for itself in a path. -/
def isPathPlain (c : Char) : Bool :=
  !isUnsafe c && !(['#', '?', '{', '}', '\x60'].contains c)

/-- A character that stands for itself in a query. -/
def isQueryPlain (c : Char) : Bool :=
  !isUnsafe c && c != '#' && c != '\''

/-- A character between the segments of a path. -/
def isSlash (c : Char) : Bool :=
  c == '/' || c == '\\'

/-- A character that ends the authority. -/
def endsAuthority (c : Char) : Bool :=
  isSlash c || c == '?' || c == '#'

/-- A character that may not stand in the name of a server. -/
def isForbiddenInHost (c : Char) : Bool :=
  c.toNat ≤ 0x20 || c.toNat == 0x7F ||
    ['#', '/', ':', '<', '>', '?', '@', '[', '\\', ']', '^', '|', '%', '"', '{', '}', '\x60'].contains c

/-! ## Parts -/

/-- The text without the control characters and blanks around it and the tabs and line breaks
within. -/
def clean (s : List Char) : List Char :=
  let s := s.dropWhile isControl
  let s := (s.reverse.dropWhile isControl).reverse
  s.filter fun c => c != '\t' && c != '\n' && c != '\r'

/-- Whether a text can be a port. -/
def isPort (s : List Char) : Bool :=
  s.all (fun c => '0' ≤ c && c ≤ '9') &&
    s.foldl (fun n c => n * 10 + (c.toNat - '0'.toNat)) 0 ≤ 65535

/-- The number that a part of an address spells: in base sixteen after `0x`, in base eight after
`0`, else in base ten. -/
def addressPart? (s : List Char) : Option Nat :=
  let inBase := fun (base : Nat) (digits : List Char) =>
    digits.foldlM
      (fun n c => ((Form.hexValue? c).filter fun d => d < base).map fun d => n * base + d) 0
  match s with
  | [] => none
  | '0' :: 'x' :: rest => inBase 16 rest
  | '0' :: 'X' :: rest => inBase 16 rest
  | '0' :: rest => inBase 8 rest
  | s => inBase 10 s

/-- Whether some numbers make up an address: all but the last are bytes, and the last one fills the
rest of four bytes. -/
def isAddress : Nat → List Nat → Bool
  | room, [n] => n < Nat.pow 256 room
  | room + 1, n :: rest => n < 256 && isAddress room rest
  | _, _ => false

/-- Whether a text can be the name of a server.  If its last label is a number, the name has to be an
address. -/
def isServerName (s : List Char) : Bool :=
  let labels := Text.splitOn (· == '.') s
  let labels := if labels.length > 1 && labels.getLast? == some [] then labels.dropLast else labels
  let last := labels.getLastD []
  let isNumber :=
    (!last.isEmpty && last.all Text.isDigit) || (last.length > 1 && (addressPart? last).isSome)
  !s.isEmpty && !s.any isForbiddenInHost &&
    (!isNumber || (labels.mapM addressPart?).any (isAddress 4))

/-- Whether a text can be the address between the brackets of an authority. -/
def isBracketed (s : List Char) : Bool :=
  s.contains ':' && s.all fun c => c == ':' || c == '.' || (Form.hexValue? c).isSome

/-- Whether a text can be an authority without credentials: the name of a server or an address in
brackets, and a port. -/
def isAuthority (s : List Char) : Bool :=
  match s with
  | '[' :: rest =>
    let address := rest.takeWhile (· != ']')
    match rest.dropWhile (· != ']') with
    | [']'] => isBracketed address
    | ']' :: ':' :: port => isBracketed address && isPort port
    | _ => false
  | s =>
    let port := (s.dropWhile (· != ':')).drop 1
    (Form.percentDecode? (s.takeWhile (· != ':'))).any (isServerName ·.toList) && isPort port

/-- What a segment says about the path. -/
inductive Step where
  /-- Nothing. -/
  | stay
  /-- Up to the segment before. -/
  | up
  /-- Down into a segment. -/
  | down (segment : List Char)

/-- A segment with its encoded dots written out. -/
def plainDots : List Char → List Char
  | '%' :: '2' :: 'e' :: rest => '.' :: plainDots rest
  | '%' :: '2' :: 'E' :: rest => '.' :: plainDots rest
  | c :: rest => c :: plainDots rest
  | [] => []

/-- What a segment says. -/
def Step.ofSegment (s : List Char) : Step :=
  match plainDots s with
  | ['.'] => stay
  | ['.', '.'] => up
  | _ => down (Form.percentEncode isPathPlain s)

/-- The segments of a path whose raw segments are given, on top of those before.  Where the path
ends in a dot or a double dot, its last segment is empty. -/
def walk (above : List (List Char)) : List (List Char) → List (List Char)
  | [] => above.reverse
  | [s] =>
    match Step.ofSegment s with
    | .stay => ([] :: above).reverse
    | .up => ([] :: above.tail).reverse
    | .down segment => (segment :: above).reverse
  | s :: rest =>
    match Step.ofSegment s with
    | .stay => walk above rest
    | .up => walk above.tail rest
    | .down segment => walk (segment :: above) rest

/-- The pieces of a path between its slashes, the first slash aside. -/
def pathPieces (path : List Char) : List (List Char) :=
  path.tail.foldr
    (fun c pieces =>
      if isSlash c then [] :: pieces
      else
        match pieces with
        | [] => [[c]]
        | piece :: others => (c :: piece) :: others)
    [[]]

/-- Whether a text names one of the two schemes of HTTP, in letters of either case. -/
def isScheme (s : List Char) : Bool :=
  ["http".toList, "https".toList].contains (s.map Char.toLower)

/-- What follows the scheme and its slashes. -/
def afterScheme? (s : List Char) : Option (List Char) :=
  match s.dropWhile (· != ':') with
  | _ :: rest => if isScheme (s.takeWhile (· != ':')) then some (rest.dropWhile isSlash) else none
  | [] => none

/-- The URL that a text spells. -/
def read? (text : String) : Option Url := do
  let s ← afterScheme? (clean text.toList)
  let authority := s.takeWhile (!endsAuthority ·)
  let host := (authority.reverse.takeWhile (· != '@')).reverse
  if !isAuthority host then none
  else
    let s := (s.dropWhile (!endsAuthority ·)).takeWhile (· != '#')
    let path := s.takeWhile (· != '?')
    let query := match s.dropWhile (· != '?') with
      | [] => none
      | _ :: q => some (Form.percentEncode isQueryPlain q)
    some ⟨host, walk [] (pathPieces path), query⟩

/-- The path and the query of a request. -/
def target (u : Url) : List Char :=
  let path := '/' :: ['/'].intercalate u.segments
  match u.query with
  | none => path
  | some q => path ++ '?' :: q

/-- The URL with one more parameter at the end of its query. -/
def withParameter (name value : String) (u : Url) : Url :=
  let field := Form.field name value
  match u.query with
  | none => { u with query := some field }
  | some [] => { u with query := some field }
  | some q => { u with query := some (q ++ '&' :: field) }

end Url
end Service
end CodeGloss
