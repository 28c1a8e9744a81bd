import CodeGloss.Selection
import CodeGloss.Text.Lines
import CodeGloss.View.Painting

/-!
# Views

A view shows a source text row by row.  There is a row for each line, numbered from one; a line feed
at the end of the text starts no further row.  A row on which a definition starts has a marker, which
says which definition it is and where on the row its name stands.
-/

namespace CodeGloss

/-- The mark of a row on which a definition starts. -/
structure Marker where
  /-- The position of the definition in the outline. -/
  position : Nat
  /-- The bytes of the row that the name takes up, unless the definition has no name. -/
  nameRange : Option (Nat × Nat)
  /-- Whether the definition is selected. -/
  selected : Bool
deriving DecidableEq, Repr

/-- A row of a view. -/
structure Row where
  /-- The number of the line. -/
  number : Nat
  /-- The line in segments. -/
  segments : List Segment
  /-- The mark of the definition that starts here. -/
  marker : Option Marker
  /-- Whether the row is part of the selected definition. -/
  inSelection : Bool
deriving DecidableEq, Repr

/-- The line that a row shows. -/
def Row.text (r : Row) : List Char :=
  Segment.joined r.segments

/-- A source text as it is shown. -/
structure View where
  /-- The rows. -/
  rows : List Row := []
  /-- The grammar that the text is painted by. -/
  grammar : Option String := none
  /-- The theme of the colours. -/
  theme : String := ""
deriving DecidableEq, Repr

namespace View

/-- The lines of a text that are shown. -/
def shownLines (text : String) : List Line :=
  if text.isEmpty then []
  else
    let lines := Line.ofText text.toList
    if lines.length > 1 && lines.getLast? == some [] then lines.dropLast else lines

/-- The marker on a line. -/
def marker? (o : Outline) (selection : Selection) (number : Nat) (line : Line) : Option Marker := do
  let position ← o.definitions.findIdx? (·.firstLine == number)
  let d ← o.get? position
  some
    { position := position
      nameRange := if d.isAnonymous then none else Text.byteRange? d.name.toList line
      selected := selection.isSelected d }

/-- The rows for some lines, the first of which has the number `number`, and their segments. -/
def rowsFrom (o : Outline) (selection : Selection) :
    Nat → List (Line × List Segment) → List Row
  | _, [] => []
  | number, (line, segments) :: rest =>
    { number := number
      segments := segments
      marker := marker? o selection number line
      inSelection := selection.range?.any fun r => r.1 ≤ number && number ≤ r.2 } ::
      rowsFrom o selection (number + 1) rest

/-- The view of a text with its outline and selection. -/
def build (text : String) (o : Outline) (selection : Selection) (hint : Hint)
    (path : Option String) (theme : String) (firsts : Grammar.FirstLines := .nowhere) : View :=
  let lines := shownLines text
  let painting := Painting.paint path hint theme lines firsts
  { rows := rowsFrom o selection 1 (lines.zip painting.lines)
    grammar := painting.grammar
    theme := painting.theme }

/-- The numbers of the rows with markers. -/
def markedLines (v : View) : List Nat :=
  (v.rows.filter (·.marker.isSome)).map Row.number

end View
end CodeGloss
