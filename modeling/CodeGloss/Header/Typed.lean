import CodeGloss.Header.Rule
import CodeGloss.Header.Scanner

/-!
# Headers of typed methods

The method form of Java, C# and C++: modifiers, a return type, and a name right before the first
parenthesis of the line.

The line is taken apart from the parenthesis backwards.  Trailing blanks go first, then the name,
then the stars and ampersands of a pointer or reference type, then at least one blank.  What is left
is the modifiers and the return type.  As many modifiers are taken as leave a return type behind, so
in `static main()` the return type is `static`.
-/

namespace CodeGloss
namespace Header

open Scanner Text

/-- The words that may come before the return type of a method. -/
def typedModifiers : List String :=
  ["public", "private", "protected", "internal", "static", "final", "abstract", "synchronized",
    "native", "virtual", "override", "async", "sealed", "extern", "inline", "constexpr", "unsafe",
    "new", "partial"]

/-- A character of a return type. -/
def isTypeChar (c : Char) : Bool :=
  isWord c || isBlank c || [':', '<', '>', ',', '[', ']', '*', '&', '?', '.'].contains c

/-- A star or an ampersand. -/
def isSigil (c : Char) : Bool :=
  c == '*' || c == '&'

/-- The first character of a typed method's name. -/
def isTypedStart (c : Char) : Bool :=
  isNameStart c || c == '~'

/-- Whether a text can be a return type. -/
def isReturnType (s : List Char) : Bool :=
  s.head?.any isNameStart && s.all isTypeChar

/-- The name that a text ends with, and the text before it.  A destructor's name starts with a
tilde. -/
def lastName? (s : List Char) : Option (List Char × List Char) :=
  let backwards := s.reverse
  let name := (backwards.takeWhile isWord).reverse
  match backwards.dropWhile isWord with
  | '~' :: before => some ('~' :: name, before.reverse)
  | before => if name.head?.any isNameStart then some (name, before.reverse) else none

/-- What stands before the sigils and the blanks that set a name off from its type, if there are any
blanks. -/
def beforeName? (s : List Char) : Option (List Char) :=
  let withBlanks := s.reverse.dropWhile isSigil
  if withBlanks.head?.any isBlank then some (withBlanks.dropWhile isBlank).reverse else none

/-- Reads a method's modifiers, return type and name up to the first parenthesis. -/
def scanTyped (line : Line) : Option Capture :=
  if !line.contains '(' then none
  else do
    let (name, before) ← lastName? (trimEnd (line.takeWhile (· != '(')))
    let before ← beforeName? before
    let returns ← (afterModifiers typedModifiers (trimStart before) []).find? isReturnType
    some ⟨name, returns⟩

/-- Methods with a return type. -/
def typedMethod : Rule where
  label := "typed-method"
  kind := .function
  style := .brace
  languages := [.java, .cSharp, .cpp]
  guarded := true
  pattern := .all [.blanks, .many (.anyApart typedModifiers),
    .returns (.seq (.one isNameStart) (.few (.one isTypeChar))), .gap, .many (.one isSigil),
    .name (.word isTypedStart isWord), .blanks, .char '(']
  scan := scanTyped

end Header
end CodeGloss
