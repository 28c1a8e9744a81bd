import CodeGloss.Screen.Frame
import CodeGloss.Screen.Split
import CodeGloss.View.Rows

/-!
# The code pane

The pane shows the rows of a view from a given one on, one below the other and never broken, so that
each row of the pane belongs to one line of the text.  In front of a line are its number and, where a
definition starts, a marker, and there the name of the definition is emphasised.
-/

namespace CodeGloss
namespace CodePane

/-! ## Emphasis -/

/-- A text cut after a number of bytes. -/
def cutBytes : Nat → List Char → List Char × List Char
  | _, [] => ([], [])
  | n, c :: rest =>
    if c.utf8Size ≤ n then
      let (before, after) := cutBytes (n - c.utf8Size) rest
      (c :: before, after)
    else ([], c :: rest)

/-- The background of a row. -/
def background (inSelection : Bool) : Ink :=
  if inSelection then .mixed ⟨32, 52, 70⟩ else .usual

/-- The style of a segment.  In the selection its own background does not show. -/
def styleOf (look : Look) (inSelection : Bool) : Style where
  foreground := (look.foreground.map Ink.mixed).getD .usual
  background :=
    if inSelection then background true else (look.background.map Ink.mixed).getD .usual
  bold := look.bold
  italic := look.italic
  underline := look.underline

/-- The style with emphasis. -/
def emphasised (style : Style) : Style :=
  { style with bold := true, underline := true }

/-- A segment that begins at the byte `offset` of its line, with the bytes in a range emphasised. -/
def cutSegment (s : Segment) (offset : Nat) (range : Option (Nat × Nat)) (inSelection : Bool) :
    List Piece :=
  let style := styleOf s.look inSelection
  let stop := offset + Text.byteLength s.text
  match range with
  | none => [{ style := style, text := s.text }]
  | some (first, last) =>
    if first < stop && offset < last then
      let (before, rest) := cutBytes (first - offset) s.text
      let (name, after) := cutBytes (min last stop - offset - Text.byteLength before) rest
      ([{ style := style, text := before }, { style := emphasised style, text := name },
        { style := style, text := after }] : List Piece).filter fun p => !p.text.isEmpty
    else [{ style := style, text := s.text }]

/-- Segments, the first of which begins at the byte `offset` of their line, with the bytes in a range
emphasised. -/
def cutSegments (range : Option (Nat × Nat)) (inSelection : Bool) : Nat → List Segment → List Piece
  | _, [] => []
  | offset, s :: rest =>
    cutSegment s offset range inSelection ++
      cutSegments range inSelection (offset + Text.byteLength s.text) rest

/-! ## Rows -/

/-- The number of a line, in a column of four characters or more. -/
def lineNumber (n : Nat) : List Char :=
  let digits := (toString n).toList
  List.replicate (4 - digits.length) ' ' ++ digits

/-- What stands in front of a line. -/
def gutter (r : Row) : List Piece :=
  let style : Style := { foreground := .darkGray, background := background r.inSelection }
  let marker : Piece := match r.marker with
    | none => { style := style, text := "  ".toList }
    | some m =>
      if m.selected then { style := { style with foreground := .yellow }, text := "▶ ".toList }
      else { style := { style with foreground := .cyan }, text := "▸ ".toList }
  [{ style := style, text := lineNumber r.number ++ " │ ".toList }, marker]

/-- The line of a row, with the name of its definition emphasised. -/
def body (r : Row) : List Piece :=
  cutSegments (r.marker.bind Marker.nameRange) r.inSelection 0 r.segments

/-- The rows of a view that are shown in a number of rows. -/
def window (v : View) (scroll height : Nat) : List Row :=
  (v.rows.drop scroll).take height

/-- What is shown of a view in a number of rows. -/
def lines (v : View) (scroll height : Nat) : List (List Piece) :=
  match window v scroll height with
  | [] => [[{ style := { foreground := .darkGray }, text := "(empty file)".toList }]]
  | rows => rows.map fun r => gutter r ++ body r

/-- The pane in an area of the given size. -/
def draw (v : View) (title : String) (scroll : Nat) (hasFocus : Bool) (width height : Nat) :
    Picture :=
  Frame.around (Frame.style hasFocus) title.toList width height
    (Picture.ofRows (width - 2) (height - 2)
      ((lines v scroll (height - 2)).map (Cell.strip (width - 2))))

/-- The number of the line that is shown on a row of the screen.  The rows in front of it are counted
in a word. -/
def lineAt? (v : View) (a : Area) (scroll row : Nat) : Option Nat :=
  let top := min (a.y + 1) Area.limit
  if row < top || a.bottom - 1 ≤ row then none
  else (v.rows[(scroll + (row - top)) % wordSize]?).map Row.number

end CodePane
end CodeGloss
