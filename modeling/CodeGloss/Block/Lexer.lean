import CodeGloss.Text.Word

/-!
# Code, literals and comments

The lexer tells the characters of a brace-delimited source that count as code from those inside
comments and quoted literals.  It works one character at a time and is told where lines end, since a
line comment and an ordinary string end with their line while a block comment and a template literal
go on.

The apostrophe is the one character that needs a look ahead: it opens a literal unless it starts a
word that is not closed right away, which is a lifetime or a loop label (`opensLiteral`).  A slash
is never code, as it may turn out to start a comment.

Under the `naive` policy every character is code.
-/

namespace CodeGloss
namespace Block

/-- Whether delimiters inside literals and comments count. -/
inductive Counting where
  /-- Delimiters inside quoted literals and comments are skipped. -/
  | literalAware
  /-- Every delimiter counts. -/
  | naive
deriving DecidableEq, Repr, Inhabited

/-- Where the lexer is. -/
inductive Lexer where
  /-- In code; `slash` says that the last character was a slash that may start a comment. -/
  | code (slash : Bool)
  /-- In a comment that ends with the line. -/
  | lineComment
  /-- In a comment that ends with a star and a slash; `star` says that the star has been read. -/
  | blockComment (star : Bool)
  /-- In a literal that ends with `quote`; `escaped` says that a backslash came just before. -/
  | quoted (quote : Char) (escaped : Bool)
deriving DecidableEq, Repr, Inhabited

namespace Lexer

/-- The quote of the literals that may span lines. -/
def templateQuote : Char := '\x60'

/-- The lexer at the start of a text. -/
def start : Lexer := code false

/-- Whether a literal or a comment is open. -/
def inLiteral : Lexer → Bool
  | code _ => false
  | _ => true

/-- A character of the words that may follow the apostrophe of a lifetime or a label. -/
def isLabelChar (c : Char) : Bool :=
  Text.isAlphanumeric c || c == '_'

/-- Whether an apostrophe followed by `rest` on its line opens a literal.  If a word follows, the
literal has to close right behind it; otherwise it has to close somewhere on the line. -/
def opensLiteral (rest : List Char) : Bool :=
  let afterWord := rest.dropWhile isLabelChar
  match rest with
  | [] => false
  | c :: _ => if isLabelChar c then afterWord.head? == some '\'' else rest.contains '\''

/-- One character in code; `rest` is what follows on its line.  Answers whether it counts. -/
def stepCode (slash : Bool) (c : Char) (rest : List Char) : Lexer × Bool :=
  if c == '/' then (if slash then (lineComment, false) else (code true, false))
  else if c == '*' && slash then (blockComment false, false)
  else if c == '"' || c == templateQuote then (quoted c false, false)
  else if c == '\'' && opensLiteral rest then (quoted c false, false)
  else (code false, true)

/-- One character inside a quoted literal. -/
def stepQuoted (quote : Char) (escaped : Bool) (c : Char) : Lexer :=
  if escaped then quoted quote false
  else if c == '\\' then quoted quote true
  else if c == quote then code false
  else quoted quote false

/-- Reads one character, and answers whether it is code.  `rest` is what follows on its line. -/
def step (l : Lexer) (c : Char) (rest : List Char) : Lexer × Bool :=
  match l with
  | code slash => stepCode slash c rest
  | lineComment => (lineComment, false)
  | blockComment star =>
    (if star && c == '/' then code false else blockComment (c == '*'), false)
  | quoted quote escaped => (stepQuoted quote escaped c, false)

/-- Reads the end of a line.  Only block comments and template literals go on. -/
def endLine : Lexer → Lexer
  | code _ => code false
  | lineComment => code false
  | blockComment star => blockComment star
  | quoted quote escaped => if quote == templateQuote then quoted quote escaped else code false

/-- Reads one character under a policy; the naive one never leaves code. -/
def read (counting : Counting) (l : Lexer) (c : Char) (rest : List Char) : Lexer × Bool :=
  match counting with
  | .naive => (l, true)
  | .literalAware => l.step c rest

end Lexer
end Block
end CodeGloss
