import CodeGloss.Header.Rule
import CodeGloss.Header.Scanner

/-!
# Headers of classes in braces

The class form shared by the languages with curly braces: modifiers, the word `class`, an optional
name, and then the start of the body or of a list of bases, or the end of the line.

The name is the longest one that leaves such a start behind it.  It can be shorter than the word
that stands there: in `class Aextends B` it is `A`.
-/

namespace CodeGloss
namespace Header

open Scanner Text

/-- The words that may come before `class`. -/
def classModifiers : List String :=
  ["public", "private", "protected", "internal", "static", "abstract", "final", "sealed", "partial"]

/-- A brace, one of the things that may follow the name of a class, or the end of the line. -/
def headEnd : Pattern :=
  .anyOf [.char '{', .all [.text "extends", .edge], .all [.text "implements", .edge], .char '<',
    .char ':', .ending]

/-- Whether the head of a class may end here. -/
def endsClassHead (s : List Char) : Bool :=
  match s with
  | [] => true
  | c :: _ =>
    c == '{' || c == '<' || c == ':' || startsWord "extends" s || startsWord "implements" s

/-- The longest piece of a name that leaves the end of a class head behind it. -/
def classNameTail? : List Char → Option (List Char)
  | [] => some []
  | c :: rest =>
    if isScriptChar c then
      match classNameTail? rest with
      | some tail => some (c :: tail)
      | none => if endsClassHead (c :: rest) then some [] else none
    else if endsClassHead (trimStart (c :: rest)) then some []
    else none

/-- The name of a class, if a name comes next. -/
def className? (s : List Char) : Option (List Char) :=
  match s with
  | [] => none
  | c :: rest => if isScriptStart c then (classNameTail? rest).map (c :: ·) else none

/-- What follows all leading modifiers. -/
def skipClassModifiers (s : List Char) : List Char :=
  (afterModifiers classModifiers s []).headD s

/-- Reads `class` with what may come before it, and a name if there is one. -/
def scanClass (line : Line) : Option Capture := do
  let s := skipClassModifiers (skipWords ["export", "default"] (trimStart line))
  let s ← after? "class" s
  if !atWordEnd s then none
  else
    match (afterBlanks? s).bind className? with
    | some name => some ⟨name, []⟩
    | none => if endsClassHead (trimStart s) then some ⟨[], []⟩ else none

/-- Classes in braces. -/
def braceClass : Rule where
  label := "class"
  kind := .classLike
  style := .brace
  languages := [.javaScript, .typeScript, .java, .cSharp, .cpp]
  guarded := false
  pattern := .all [.blanks, .optional (.apart "export"), .optional (.apart "default"),
    .many (.anyApart classModifiers), .text "class", .edge,
    .optional (.all [.gap, .name (.word isScriptStart isScriptChar)]), .blanks, headEnd]
  scan := scanClass

end Header
end CodeGloss
