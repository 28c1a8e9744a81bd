import CodeGloss.Header.Rule
import CodeGloss.Header.Scanner

/-!
# Headers of Go functions

A function or method: `func`, an optional receiver in parentheses, a name, optional type parameters
in brackets, and the opening parenthesis of the parameter list.
-/

namespace CodeGloss
namespace Header

open Scanner Text

/-- Reads a function with its receiver and its type parameters. -/
def scanFunc (line : Line) : Option Capture := do
  let s ← after? "func" (trimStart line)
  let s ← skipGroup? '(' ')' (trimStart s)
  let (name, s) ← plainName? (trimStart s)
  let s ← skipGroup? '[' ']' (trimStart s)
  if (trimStart s).head? == some '(' then some ⟨name, []⟩ else none

/-- Functions and methods. -/
def goFunc : Rule where
  label := "go-func"
  kind := .function
  style := .brace
  languages := [.go]
  guarded := false
  pattern := .all [.blanks, .text "func", .blanks, .optional (.all [.group '(' ')', .blanks]),
    .name (.word isNameStart isWord), .blanks, .optional (.all [.group '[' ']', .blanks]),
    .char '(']
  scan := scanFunc

end Header
end CodeGloss
