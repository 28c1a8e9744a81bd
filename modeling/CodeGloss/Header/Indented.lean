import CodeGloss.Header.Rule
import CodeGloss.Header.Scanner

/-!
# Headers of indented definitions

The definitions whose blocks are marked by indentation: functions introduced by `def`, possibly
after `async`, and classes.  A function's name comes right before its parameter list, and a class's
before its bases or its colon.
-/

namespace CodeGloss
namespace Header

open Scanner Text

/-- Reads `def`, perhaps after `async`, a name and an opening parenthesis. -/
def scanDef (line : Line) : Option Capture := do
  let s := skipWord "async" (trimStart line)
  let s ← afterWord? "def" s
  let (name, s) ← plainName? s
  if (trimStart s).head? == some '(' then some ⟨name, []⟩ else none

/-- Reads `class`, a name, and an opening parenthesis or a colon. -/
def scanIndentedClass (line : Line) : Option Capture := do
  let s ← afterWord? "class" (trimStart line)
  let (name, s) ← plainName? s
  match (trimStart s).head? with
  | some '(' => some ⟨name, []⟩
  | some ':' => some ⟨name, []⟩
  | _ => none

/-- Functions marked by indentation. -/
def pythonDef : Rule where
  label := "python-def"
  kind := .function
  style := .indent
  languages := [.python]
  guarded := false
  pattern := .all [.blanks, .optional (.apart "async"), .apart "def",
    .name (.word isNameStart isWord), .blanks, .char '(']
  scan := scanDef

/-- Classes marked by indentation. -/
def pythonClass : Rule where
  label := "python-class"
  kind := .classLike
  style := .indent
  languages := [.python]
  guarded := false
  pattern := .all [.blanks, .apart "class", .name (.word isNameStart isWord), .blanks,
    .one fun c => c == '(' || c == ':']
  scan := scanIndentedClass

end Header
end CodeGloss
