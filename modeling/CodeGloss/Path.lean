import CodeGloss.Text.Blank
import CodeGloss.Text.Decoding

/-!
# Paths

Paths are bytes with slashes.  Most of them are text, and all of them are written as text here: a byte
that belongs to no character is spelled by a NUL, which no path has in it, and the character that has
the number of the byte.  Where a path is shown, or is a key, such bytes are replaced, so two paths may
be shown alike.

What counts otherwise is the sequence of the components: repeated slashes, a trailing slash and dots
in the middle say nothing, while a leading dot and every double dot do.  Nothing here looks at a file
tree.

* `bytes`, `text`: the bytes that a path stands for, and the text that is shown for them.
* `components`: the parts of a path, with which paths are compared.
* `fileName?`, `extension?`: what the last component says, unless it is a dot or a double dot.
* `join`, `parent?`: going down and up, on the text alone.
-/

namespace CodeGloss
namespace Path

/-! ## Bytes -/

/-- Whether two characters spell a byte that belongs to no character. -/
def isSpelledByte (c d : Char) : Bool :=
  c == '\x00' && 0x80 ≤ d.toNat && d.toNat < 0x100

/-- The bytes that characters stand for in a path. -/
def bytesOf : List Char → List UInt8
  | [] => []
  | [c] => String.utf8EncodeChar c
  | c :: d :: rest =>
    if isSpelledByte c d then UInt8.ofNat d.toNat :: bytesOf rest
    else String.utf8EncodeChar c ++ bytesOf (d :: rest)

/-- The bytes of a path. -/
def bytes (path : String) : List UInt8 :=
  bytesOf path.toList

/-- The text that is shown for a path. -/
def text (path : String) : String :=
  Text.decode (bytes path)

/-! ## Components -/

/-- One step of a path. -/
inductive Component where
  /-- The root of the tree. -/
  | root
  /-- The directory itself; only where a path starts with it. -/
  | here
  /-- The directory above. -/
  | up
  /-- An entry of that name. -/
  | entry (name : String)
deriving DecidableEq, Repr, Inhabited

/-- The texts between the slashes of a path. -/
def pieces (path : String) : List String :=
  (Text.splitOn (· == '/') path.toList).map String.ofList

/-- Whether a path starts at the root. -/
def isAbsolute (path : String) : Bool :=
  path.toList.head? == some '/'

/-- The component that a piece stands for, if it stands for one. -/
def Component.ofPiece? : String → Option Component
  | "" => none
  | "." => none
  | ".." => some up
  | name => some (entry name)

/-- The components of a path. -/
def components (path : String) : List Component :=
  let parts := pieces path
  let lead :=
    if isAbsolute path then [Component.root]
    else if parts.head? == some "." then [Component.here]
    else []
  lead ++ parts.filterMap Component.ofPiece?

/-- The text of a component. -/
def Component.text : Component → String
  | root => "/"
  | here => "."
  | up => ".."
  | entry name => name

/-- The path with the given components. -/
def ofComponents : List Component → String
  | .root :: rest => "/" ++ "/".intercalate (rest.map Component.text)
  | parts => "/".intercalate (parts.map Component.text)

/-- Whether two paths have the same components. -/
def same (a b : String) : Bool :=
  components a == components b

/-- The name of the entry that a path ends with. -/
def fileName? (path : String) : Option String :=
  match (components path).getLast? with
  | some (.entry name) => some name
  | _ => none

/-- The name to show for a path: that of the entry it ends with, or the path itself. -/
def shownName (path : String) : String :=
  text ((fileName? path).getD path)

/-- What a file name has after its last dot.  A name whose only dot is its first character has no
extension. -/
def nameExtension? (name : String) : Option String :=
  let backwards := name.toList.reverse
  match backwards.dropWhile (· != '.') with
  | [] => none
  | _ :: before =>
    if before.isEmpty then none
    else some (String.ofList (backwards.takeWhile (· != '.')).reverse)

/-- The extension of the file that a path ends with. -/
def extension? (path : String) : Option String :=
  (fileName? path).bind nameExtension?

/-- The path `below`, taken from the directory `dir`. -/
def join (dir below : String) : String :=
  if isAbsolute below then below
  else if dir.isEmpty || dir.toList.getLast? == some '/' then dir ++ below
  else dir ++ "/" ++ below

/-- Whether a piece of a path counts, as the piece at position `position`: a dot does only at the
very start of a relative path. -/
def counts (position : Nat) (piece : String) : Bool :=
  piece != "" && (piece != "." || position == 0)

/-- The path of the directory above, as a shorter piece of the text; a path without components has
none. -/
def parent? (path : String) : Option String :=
  let parts := pieces path
  let counting := (List.range parts.length).filter fun i => counts i (parts.getD i "")
  match counting.reverse with
  | [] => none
  | [_] => some (if isAbsolute path then "/" else "")
  | _ :: above :: _ => some ("/".intercalate (parts.take (above + 1)))

/-- The paths that go up from a path, itself first. -/
def upwards (path : String) : List String :=
  go path.length path
where
  /-- Goes up at most `fuel` times. -/
  go : Nat → String → List String
    | 0, path => [path]
    | fuel + 1, path =>
      match parent? path with
      | none => [path]
      | some above => path :: go fuel above

end Path
end CodeGloss
