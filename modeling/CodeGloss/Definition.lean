/-!
# Definitions

A function or class found in a source text: what it is called, which lines it takes up and what
those lines say.  Lines are numbered from one and both ends of the range are part of it.  Two
definitions are the same for the purposes of selection and deduplication when they agree on kind,
name and range, whatever their text.
-/

namespace CodeGloss

/-- What a definition defines. -/
inductive Kind where
  | function
  | classLike
deriving DecidableEq, Repr, Inhabited

namespace Kind

/-- The word for the kind. -/
def word : Kind → String
  | function => "function"
  | classLike => "class"

/-- Reads the word for a kind. -/
def ofWord? : String → Option Kind
  | "function" => some function
  | "class" => some classLike
  | _ => none

@[simp] theorem ofWord?_word (k : Kind) : ofWord? k.word = some k := by
  cases k <;> rfl

end Kind

/-- A definition found in a source text. -/
structure Definition where
  /-- What it defines. -/
  kind : Kind
  /-- Its name, or `Definition.anonymous`. -/
  name : String
  /-- The line of its header, numbered from one. -/
  firstLine : Nat
  /-- The last line of its block. -/
  lastLine : Nat
  /-- Its lines, joined by line feeds. -/
  text : String
deriving DecidableEq, Repr, Inhabited

namespace Definition

/-- The name given to a definition whose header has none. -/
def anonymous : String := "<anonymous>"

/-- What tells one definition from another. -/
structure Key where
  /-- What is defined. -/
  kind : Kind
  /-- Under which name. -/
  name : String
  /-- From which line. -/
  firstLine : Nat
  /-- To which line. -/
  lastLine : Nat
deriving DecidableEq, Repr, Inhabited

/-- The identity of a definition: everything but its text. -/
def key (d : Definition) : Key :=
  ⟨d.kind, d.name, d.firstLine, d.lastLine⟩

/-- Whether the header gave no name. -/
def isAnonymous (d : Definition) : Bool :=
  d.name == anonymous

/-- Whether the definition covers a line. -/
def covers (d : Definition) (line : Nat) : Bool :=
  d.firstLine ≤ line && line ≤ d.lastLine

/-- The number of lines that the definition takes up. -/
def lineCount (d : Definition) : Nat :=
  d.lastLine + 1 - d.firstLine

/-- The key under which annotations of the definition are stored.  Anonymous definitions are told
apart by the line they start on. -/
def glossKey (d : Definition) : String :=
  if d.isAnonymous then d.name ++ "@" ++ toString d.firstLine else d.name

end Definition
end CodeGloss
