import CodeGloss.Screen.Title

/-!
# Frames

A frame goes around a picture and has a title in its upper edge.  A frame with one row has no lower
edge, and one with one column no right one.
-/

namespace CodeGloss
namespace Frame

/-- A row between the two ends of an edge. -/
def between (first last : Char) (style : Style) (width : Nat) (inside : List Cell) : List Cell :=
  match width with
  | 0 => []
  | 1 => Cell.line 1 first style
  | _ + 2 => Cell.line 1 first style ++ inside ++ Cell.line 1 last style

/-- The upper edge, with the title as far as it fits.  The lines of a title are its pieces. -/
def upperEdge (style : Style) (title : List Char) (width : Nat) : List Cell :=
  between '┌' '┐' style width
    (Title.written (Cell.line (width - 2) '─' style) (Line.shown title))

/-- The lower edge. -/
def lowerEdge (style : Style) (width : Nat) : List Cell :=
  between '└' '┘' style width (Cell.line (width - 2) '─' style)

/-- A frame of the given size around a picture that is two columns and two rows smaller. -/
def around (style : Style) (title : List Char) (width height : Nat) (inside : Picture) : Picture :=
  match height with
  | 0 => []
  | 1 => [upperEdge style title width]
  | _ + 2 =>
    [upperEdge style title width] ++ inside.map (between '│' '│' style width) ++
      [lowerEdge style width]

/-- The style of a frame: the frame of the pane that has the focus stands out. -/
def style (hasFocus : Bool) : Style :=
  { foreground := if hasFocus then .cyan else .darkGray }

end Frame
end CodeGloss
