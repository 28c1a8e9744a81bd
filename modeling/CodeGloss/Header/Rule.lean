import CodeGloss.Block.Extent
import CodeGloss.Definition
import CodeGloss.Header.Pattern
import CodeGloss.Language

/-!
# Headers and header rules

A header is what one line says about the definition that starts on it: its kind, its name and how
its block is marked.  A rule recognizes the headers of one form.  It applies to some languages (and
always when no language is given) and scans the line for a name.

Some forms also fit statements: `return compute(x)` looks like a method that returns `return`.  A
guarded rule turns such a line down when a statement keyword stands where its name or a word of its
return type should.
-/

namespace CodeGloss

/-- What a line says about the definition that starts on it. -/
structure Header where
  /-- What is defined. -/
  kind : Kind
  /-- Under which name. -/
  name : String
  /-- How the block is marked. -/
  style : Block.Style
deriving DecidableEq, Repr, Inhabited

namespace Header

/-- A form of header line. -/
structure Rule where
  /-- The name of the rule. -/
  label : String
  /-- What its headers define. -/
  kind : Kind
  /-- How the blocks of its definitions are marked. -/
  style : Block.Style
  /-- The languages that have headers of this form. -/
  languages : List Language
  /-- Whether statement keywords are turned down. -/
  guarded : Bool
  /-- The form of the lines. -/
  pattern : Pattern
  /-- Reads a line of this form, without going back. -/
  scan : Line → Option Capture

/-- The words that come before a parenthesis in statements, and are never a name or part of a
return type. -/
def statementKeywords : List String :=
  ["if", "else", "for", "foreach", "while", "do", "switch", "case", "catch", "return", "throw",
    "new", "await", "yield", "typeof", "sizeof", "delete", "function", "match", "loop", "let",
    "using", "lock", "goto", "assert", "print", "not", "and", "or", "in", "is", "lambda", "del",
    "raise", "import", "from", "with", "elif", "pass", "echo", "defer", "go", "select"]

namespace Rule

/-- Whether the rule is tried under a hint. -/
def appliesTo (rule : Rule) : Hint → Bool
  | none => true
  | some language => rule.languages.contains language

/-- Whether a statement keyword is the name or one of the words of the return type. -/
def namesStatement (capture : Capture) : Bool :=
  (Text.words capture.returns ++ [Text.trim capture.name]).any fun word =>
    statementKeywords.contains (String.ofList word)

/-- The header on a line, if the line has the form of the rule. -/
def header? (rule : Rule) (line : Line) : Option Header :=
  match rule.scan line with
  | none => none
  | some capture =>
    if rule.guarded && namesStatement capture then none
    else
      let name := String.ofList (Text.trim capture.name)
      some ⟨rule.kind, if name.isEmpty then Definition.anonymous else name, rule.style⟩

end Rule
end Header
end CodeGloss
