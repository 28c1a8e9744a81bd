import CodeGloss.Header.Rule
import CodeGloss.Header.Scanner

/-!
# Headers of script definitions

The forms that JavaScript and TypeScript share: function declarations, variables bound to functions,
and methods inside a class body.  Names may hold dollar signs, and a function declaration may do
without a name.
-/

namespace CodeGloss
namespace Header

open Scanner Text

/-- The languages of the script forms. -/
def scriptLanguages : List Language := [.javaScript, .typeScript]

/-! ## Function declarations -/

/-- Reads `function`, an optional star, an optional name, optional type parameters up to the first
closing angle bracket, and an opening parenthesis. -/
def scanFunction (line : Line) : Option Capture := do
  let s := skipWords ["export", "default", "async"] (trimStart line)
  let s ← after? "function" s
  if !atWordEnd s then none
  else
    let s := trimStart s
    let s := trimStart ((after? "*" s).getD s)
    let (name, s) := (scriptName? s).getD ([], s)
    let s ← skipGroup? '<' '>' (trimStart s)
    if (trimStart s).head? == some '(' then some ⟨name, []⟩ else none

/-- Function declarations. -/
def scriptFunction : Rule where
  label := "js-function"
  kind := .function
  style := .brace
  languages := scriptLanguages
  guarded := false
  pattern := .all [.blanks, .optional (.apart "export"), .optional (.apart "default"),
    .optional (.apart "async"), .text "function", .edge, .blanks, .optional (.char '*'), .blanks,
    .optional (.name (.word isScriptStart isScriptChar)), .blanks, .optional (.group '<' '>'),
    .blanks, .char '(']
  scan := scanFunction

/-! ## Bound functions -/

/-- What follows the equals sign of a binding, after a type annotation if there is one.  An
annotation is not empty and holds no equals sign. -/
def afterAssignment? (s : List Char) : Option (List Char) :=
  match s with
  | '=' :: rest => some rest
  | ':' :: rest => if rest.head? == some '=' then none else afterFirst? '=' rest
  | _ => none

/-- Whether an arrow comes next, after a return type if there is one. -/
def startsArrow (s : List Char) : Bool :=
  match after? "=>" s with
  | some _ => true
  | none =>
    match s with
    | ':' :: rest => (((afterAssignment? (':' :: rest)).bind (after? ">")).isSome)
    | _ => false

/-- Whether a parameter list comes next that has an arrow behind it, or that goes on after the end of
the line. -/
def startsParameters (s : List Char) : Bool :=
  match after? "(" s with
  | some rest =>
    match afterFirst? ')' rest with
    | some rest => startsArrow (trimStart rest)
    | none => true
  | none => false

/-- Whether a single parameter and its arrow come next. -/
def startsParameter (s : List Char) : Bool :=
  match scriptName? s with
  | some (_, rest) => (after? "=>" (trimStart rest)).isSome
  | none => false

/-- Whether a function comes next. -/
def startsFunction (s : List Char) : Bool :=
  startsWord "function" s || startsParameters s || startsParameter s

/-- Reads a variable whose value is a function.  The word `async` before the value may itself be the
parameter of an arrow. -/
def scanBinding (line : Line) : Option Capture := do
  let s := skipWord "export" (trimStart line)
  let s ← afterAnyWord? ["const", "let", "var"] s
  let (name, s) ← scriptName? s
  let s ← afterAssignment? (trimStart s)
  let s := trimStart s
  if startsFunction (skipWord "async" s) || startsFunction s then some ⟨name, []⟩ else none

/-- A type annotation: a colon and what stands behind it up to an equals sign. -/
def typeMark : Pattern :=
  .all [.char ':', .word (· != '=') (· != '=')]

/-- A parameter list with its arrow, or one that goes on after the end of the line. -/
def parameters : Pattern :=
  .all [.char '(', .anyOf [
    .all [.upTo ')', .blanks, .optional typeMark, .text "=>"],
    .all [.many (.one (· != ')')), .ending]]]

/-- A single parameter with its arrow. -/
def parameter : Pattern :=
  .all [.word isScriptStart isScriptChar, .blanks, .text "=>"]

/-- A function: the keyword, a parameter list or a single parameter. -/
def boundFunction : Pattern :=
  .anyOf [.all [.text "function", .edge], parameters, parameter]

/-- Variables bound to functions. -/
def scriptBinding : Rule where
  label := "js-binding"
  kind := .function
  style := .brace
  languages := scriptLanguages
  guarded := false
  pattern := .all [.blanks, .optional (.apart "export"), .anyApart ["const", "let", "var"],
    .name (.word isScriptStart isScriptChar), .blanks, .optional typeMark, .char '=', .blanks,
    .optional (.apart "async"), boundFunction]
  scan := scanBinding

/-! ## Methods -/

/-- The words that may come before a method's name. -/
def methodModifiers : List String :=
  ["static", "async", "get", "set", "public", "private", "protected", "readonly", "override"]

/-- A character of a method's return type. -/
def isInType (c : Char) : Bool :=
  c != '{' && c != '=' && c != ';'

/-- Whether the body opens here, after a return type if there is one. -/
def startsBody (s : List Char) : Bool :=
  match s with
  | '{' :: _ => true
  | ':' :: rest =>
    (rest.head?.any isInType) && (rest.dropWhile isInType).head? == some '{'
  | _ => false

/-- Reads an optional star, a name, a parameter list and the start of the body. -/
def scanMethodName (s : List Char) : Option Capture := do
  let s := (after? "*" s).getD s
  let (name, s) ← scriptName? s
  let s ← after? "(" (trimStart s)
  let s ← afterFirst? ')' s
  if startsBody (trimStart s) then some ⟨name, []⟩ else none

/-- Reads a method whose body opens on the line.  A modifier may also be the name. -/
def scanMethod (line : Line) : Option Capture :=
  (afterModifiers methodModifiers (trimStart line) []).findSome? scanMethodName

/-- Methods inside a class body. -/
def scriptMethod : Rule where
  label := "js-method"
  kind := .function
  style := .brace
  languages := scriptLanguages
  guarded := true
  pattern := .all [.blanks, .many (.anyApart methodModifiers), .optional (.char '*'),
    .name (.word isScriptStart isScriptChar), .blanks, .group '(' ')', .blanks,
    .optional (.all [.char ':', .blanks, .word isInType isInType]), .char '{']
  scan := scanMethod

end Header
end CodeGloss
