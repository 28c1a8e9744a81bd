import CodeGloss.View.Grammar
import CodeGloss.View.Segment
import CodeGloss.View.Theme

/-!
# Painting

Lines of source code with their segments, and the grammar and the theme that were chosen for them.
The segments of a line make up the line again.  Without a grammar each line is one segment; with one,
there are no empty segments.
-/

namespace CodeGloss

/-- Painted lines. -/
structure Painting where
  /-- The segments of each line. -/
  lines : List (List Segment)
  /-- The grammar, if there is one for the text. -/
  grammar : Option String
  /-- The theme. -/
  theme : String
deriving DecidableEq, Repr

namespace Painting

/-- Whether lines with the given grammar were painted by it or left plain. -/
def mode (grammar : Option String) : String :=
  if grammar.isSome then "highlighted" else "plain"

/-- Lines left plain. -/
def plain (lines : List (List Char)) (theme : String) : Painting where
  lines := lines.map fun l => [{ text := l }]
  grammar := none
  theme := theme

/-- Lines painted by a grammar, which takes each of them for one piece. -/
def colored (lines : List (List Char)) (grammar theme : String) : Painting where
  lines := lines.map fun l => if l.isEmpty then [] else [{ text := l }]
  grammar := some grammar
  theme := theme

/-- Paints lines as the path, the language and the theme ask for. -/
def paint (path : Option String) (hint : Hint) (theme : String) (lines : List (List Char))
    (firsts : Grammar.FirstLines := .nowhere) : Painting :=
  match Grammar.choose path hint lines firsts with
  | some grammar => colored lines grammar (Theme.choose theme)
  | none => plain lines (Theme.choose theme)

end Painting
end CodeGloss
