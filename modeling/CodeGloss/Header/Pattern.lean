import CodeGloss.Text.Lines
import CodeGloss.Text.Word

/-!
# Patterns

The form of a header line can be written down as a pattern.  A pattern may read the beginning of a
line in several ways.  They are put in an order (`Pattern.runs`): an alternative comes after all ways
of those before it, and a pattern that is repeated is read once more before it is left, or the other
way round for a repetition that is to be short.  What a pattern finds on a line is what its first way
has found (`Pattern.find?`), so a later way counts only if all ways before it come to a dead end.

Nothing here says how a line may be read without going back.  That is what the scanners of the rules
are for.
-/

namespace CodeGloss
namespace Header

open Text (isBlank isWord)

/-- What is found on a line. -/
structure Capture where
  /-- The name, empty for a definition without one. -/
  name : List Char := []
  /-- The text of the return type, where the form has one. -/
  returns : List Char := []
deriving DecidableEq, Repr, Inhabited

/-- A pattern. -/
inductive Pattern where
  /-- Nothing is read. -/
  | nothing
  /-- One character that passes a test. -/
  | one (test : Char → Bool)
  /-- Nothing, where a word begins or ends. -/
  | edge
  /-- Nothing, at the end of the line. -/
  | ending
  /-- One pattern, and then the other. -/
  | seq (p q : Pattern)
  /-- One pattern, or else the other. -/
  | either (p q : Pattern)
  /-- A pattern over and over, rather more often than less. -/
  | many (p : Pattern)
  /-- A pattern over and over, rather less often than more. -/
  | few (p : Pattern)
  /-- A pattern for the name. -/
  | name (p : Pattern)
  /-- A pattern for the return type. -/
  | returns (p : Pattern)

namespace Pattern

/-! ## Ways to read a line -/

/-- How far a line has been read. -/
structure Cursor where
  /-- What is left of the line. -/
  rest : List Char
  /-- What was found so far. -/
  capture : Capture := {}
deriving DecidableEq, Repr

/-- What was read between two places. -/
def Cursor.between (s s' : Cursor) : List Char :=
  s.rest.take (s.rest.length - s'.rest.length)

/-- Whether a word of the line begins or ends before `rest`. -/
def isEdge (line rest : List Char) : Bool :=
  (line.take (line.length - rest.length)).getLast?.any isWord != rest.head?.any isWord

/-- The ways to repeat a step, at most so often.  Every repetition has to read something. -/
def repeated (step : Cursor → List Cursor) (short : Bool) : Nat → Cursor → List Cursor
  | 0, s => [s]
  | n + 1, s =>
    let more := ((step s).filter fun s' => s'.rest.length < s.rest.length).flatMap
      (repeated step short n)
    if short then s :: more else more ++ [s]

/-- The ways to read on along a line, the first choice first. -/
def runs (line : List Char) : Pattern → Cursor → List Cursor
  | nothing, s => [s]
  | one test, s =>
    match s.rest with
    | c :: rest => if test c then [{ s with rest }] else []
    | [] => []
  | edge, s => if isEdge line s.rest then [s] else []
  | ending, s => if s.rest.isEmpty then [s] else []
  | seq p q, s => (p.runs line s).flatMap (q.runs line)
  | either p q, s => p.runs line s ++ q.runs line s
  | many p, s => repeated (p.runs line) false s.rest.length s
  | few p, s => repeated (p.runs line) true s.rest.length s
  | name p, s =>
    (p.runs line s).map fun s' => { s' with capture := { s'.capture with name := s.between s' } }
  | returns p, s =>
    (p.runs line s).map fun s' => { s' with capture := { s'.capture with returns := s.between s' } }

/-- What a pattern finds at the beginning of a line. -/
def find? (p : Pattern) (line : List Char) : Option Capture :=
  (p.runs line { rest := line }).head?.map Cursor.capture

/-! ## Patterns made of others -/

/-- A fixed text. -/
def text (word : String) : Pattern :=
  word.toList.foldr (fun c p => seq (one (· == c)) p) nothing

/-- Some patterns, one after the other. -/
def all (ps : List Pattern) : Pattern :=
  ps.foldr seq nothing

/-- One of some patterns, the first choice first. -/
def anyOf (ps : List Pattern) : Pattern :=
  ps.foldr either (one fun _ => false)

/-- A pattern where it fits, and nothing otherwise. -/
def optional (p : Pattern) : Pattern :=
  either p nothing

/-- Blanks, as many as there are. -/
def blanks : Pattern :=
  many (one isBlank)

/-- At least one blank. -/
def gap : Pattern :=
  seq (one isBlank) blanks

/-- A word and the blanks that set it off. -/
def apart (word : String) : Pattern :=
  seq (text word) gap

/-- One of some words, and the blanks that set it off. -/
def anyApart (words : List String) : Pattern :=
  seq (anyOf (words.map text)) gap

/-- A character. -/
def char (c : Char) : Pattern :=
  one (· == c)

/-- Everything up to a character, and that character. -/
def upTo (c : Char) : Pattern :=
  seq (many (one (· != c))) (char c)

/-- A group that one character starts and the next one of another kind ends. -/
def group (opening closing : Char) : Pattern :=
  seq (char opening) (upTo closing)

/-- A name, with its first character from one class and the others from another. -/
def word (first other : Char → Bool) : Pattern :=
  seq (one first) (many (one other))

end Pattern
end Header
end CodeGloss
