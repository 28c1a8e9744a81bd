import CodeGloss.Block.Lexer
import CodeGloss.Text.Lines

/-!
# Blocks by braces

A block that is marked by braces lasts until the brace that opens its body is closed.  Only
characters that the lexer calls code are looked at.

Before the body opens, parentheses and brackets are counted, so that a brace or a semicolon inside a
parameter list neither opens the body nor ends the declaration (`Phase.seeking`).  A semicolon or a
closing brace outside them shows that the declaration has no body, and the block is rejected.  Once
the body is open only braces are counted (`Phase.inside`), and a body that never closes runs to the
end of the text.

A line that begins while the body is still to come, outside parameter lists and literals, has to be a
fit continuation of the header (`Scan.goesOn?`): indented deeper than the header or starting with the
brace itself, and the first such line unless a `where` line came before.
-/

namespace CodeGloss
namespace Block
namespace Brace

/-! ## One character -/

/-- How far a declaration has been read. -/
inductive Phase where
  /-- The body is still to come, under `nesting` open parentheses and brackets. -/
  | seeking (nesting : Nat)
  /-- The body is open, and inside it `inner` more braces. -/
  | inside (inner : Nat)
deriving DecidableEq, Repr, Inhabited

/-- What becomes of a declaration when more of it is read. -/
inductive Progress (α : Type) where
  /-- There is more to read. -/
  | more (state : α)
  /-- The body has been closed. -/
  | closed
  /-- There is no body. -/
  | rejected
deriving Repr

/-- Reads one character of code. -/
def Phase.read : Phase → Char → Progress Phase
  | .seeking nesting, c =>
    if c == '(' || c == '[' then .more (.seeking (nesting + 1))
    else if c == ')' || c == ']' then .more (.seeking (nesting - 1))
    else if c == '{' && nesting == 0 then .more (.inside 0)
    else if (c == ';' || c == '}') && nesting == 0 then .rejected
    else .more (.seeking nesting)
  | .inside inner, c =>
    if c == '{' then .more (.inside (inner + 1))
    else if c == '}' then
      match inner with
      | 0 => .closed
      | outer + 1 => .more (.inside outer)
    else .more (.inside inner)

/-! ## One line -/

/-- Reads the characters of a line, and its end if the declaration is not decided before. -/
def readLine (counting : Counting) : Lexer → Phase → Line → Progress (Lexer × Phase)
  | lexer, phase, [] => .more (lexer.endLine, phase)
  | lexer, phase, c :: rest =>
    let (lexer, isCode) := lexer.read counting c rest
    if isCode then
      match phase.read c with
      | .more phase => readLine counting lexer phase rest
      | .closed => .closed
      | .rejected => .rejected
    else readLine counting lexer phase rest

/-! ## All lines -/

/-- What is carried from line to line. -/
structure Scan where
  /-- Whether a literal or a comment is open. -/
  lexer : Lexer
  /-- How far the declaration has been read. -/
  phase : Phase
  /-- A line after the header has been admitted while the body was still to come. -/
  continued : Bool
  /-- One of those lines began with `where`. -/
  inWhere : Bool
deriving DecidableEq, Repr, Inhabited

namespace Scan

/-- The scan at the start of a header line. -/
def start : Scan := ⟨.start, .seeking 0, false, false⟩

/-- Whether the next line begins where the body has to open: not yet open, and outside parameter
lists, literals and comments. -/
def awaitsBody (s : Scan) : Bool :=
  s.phase == .seeking 0 && !s.lexer.inLiteral

/-- Whether the first word of a line is `where`. -/
def startsWhere (line : Line) : Bool :=
  (Text.trimStart line).takeWhile (!Text.isBlank ·) == "where".toList

/-- Whether a line is indented no deeper than the header and does not start with a brace. -/
def isShallow (tabWidth base : Nat) (line : Line) : Bool :=
  line.indent tabWidth ≤ base && (Text.trimStart line).head? != some '{'

/-- Whether a line that is not blank may come next while the body is awaited, and the scan that has
taken note of it. -/
def goesOn? (tabWidth base : Nat) (s : Scan) (line : Line) : Option Scan :=
  if startsWhere line then some { s with inWhere := true, continued := true }
  else if isShallow tabWidth base line || (s.continued && !s.inWhere) then none
  else some { s with continued := true }

/-- Reads the characters of a line. -/
def read (counting : Counting) (s : Scan) (line : Line) : Progress Scan :=
  match readLine counting s.lexer s.phase line with
  | .more (lexer, phase) => .more { s with lexer := lexer, phase := phase }
  | .closed => .closed
  | .rejected => .rejected

/-- Reads a line after the header. -/
def next (counting : Counting) (tabWidth base : Nat) (s : Scan) (line : Line) : Progress Scan :=
  if s.awaitsBody then
    if Text.isAllBlank line then .more s
    else
      match s.goesOn? tabWidth base line with
      | some s => s.read counting line
      | none => .rejected
  else s.read counting line

end Scan

/-- Whether a body was open when the lines ran out. -/
def Phase.isOpen : Phase → Bool
  | .seeking _ => false
  | .inside _ => true

/-- Walks over the lines after the header, `seen` of which have been read. -/
def walk (counting : Counting) (tabWidth base : Nat) : Nat → Scan → List Line → Option Nat
  | seen, s, [] => if s.phase.isOpen then some seen else none
  | seen, s, line :: rest =>
    match s.next counting tabWidth base line with
    | .more s => walk counting tabWidth base (seen + 1) s rest
    | .closed => some (seen + 1)
    | .rejected => none

/-- How many of the lines in `rest` belong to the block that `header` declares, or `none` if it
declares no block. -/
def extent? (counting : Counting) (tabWidth : Nat) (header : Line) (rest : List Line) :
    Option Nat :=
  match Scan.start.read counting header with
  | .more s => walk counting tabWidth (header.indent tabWidth) 0 s rest
  | .closed => some 0
  | .rejected => none

end Brace
end Block
end CodeGloss
