/-!
# The split

The screen is divided into a pane for the code and one for annotations below it.  The divider can be
moved in steps, set, or dragged while it is held.  The code always has between a fifth and four fifths
of the room.
-/

namespace CodeGloss

/-- A part of the screen. -/
structure Area where
  /-- The first column. -/
  x : Nat := 0
  /-- The first row. -/
  y : Nat := 0
  /-- The number of columns. -/
  width : Nat := 0
  /-- The number of rows. -/
  height : Nat := 0
deriving DecidableEq, Repr, Inhabited

namespace Area

/-- Rows and columns are numbered up to here. -/
def limit : Nat := 65535

/-- The row of the screen below an area. -/
def bottom (a : Area) : Nat :=
  min (a.y + a.height) limit

/-- How many rows of an area are above the given row of the screen. -/
def rowsAbove (a : Area) (row : Nat) : Nat :=
  min (row - a.y) a.height

end Area

/-- Where the divider stands. -/
structure Split where
  /-- The part of the room that the code has, in percent. -/
  percent : Nat
  /-- How many grips there are on the divider. -/
  grips : Nat := 0
  /-- Whether the divider is being dragged. -/
  dragging : Bool := false
deriving DecidableEq, Repr

namespace Split

/-- The least part that the code may have. -/
def least : Nat := 20

/-- The greatest part that the code may have. -/
def most : Nat := 80

/-- How far a step moves the divider. -/
def stride : Nat := 5

/-- A part between the least and the greatest. -/
def clamp (percent : Nat) : Nat :=
  max least (min most percent)

/-- A split that nobody holds. -/
def ofPercent (percent : Nat) : Split where
  percent := clamp percent

/-- The usual split. -/
def usual : Split :=
  ofPercent 70

/-- Sets the part of the code. -/
def set (percent : Nat) (s : Split) : Split :=
  { s with percent := clamp percent }

/-- Gives the code one step more. -/
def grow (s : Split) : Split :=
  s.set (s.percent + stride)

/-- Gives the code one step less. -/
def shrink (s : Split) : Split :=
  s.set (s.percent - stride)

/-! ## Dragging -/

/-- Takes a grip on the divider. -/
def take (s : Split) : Split :=
  { s with grips := s.grips + 1, dragging := true }

/-- Lets one grip go.  That ends the dragging. -/
def letGo (s : Split) : Split :=
  if s.grips = 0 then s else { s with grips := s.grips - 1, dragging := false }

/-- Drags the divider to a row. -/
def dragTo (a : Area) (row : Nat) (s : Split) : Split :=
  if !s.dragging || a.height = 0 then s
  else s.set (a.rowsAbove row * 100 / a.height)

/-! ## Areas -/

/-- The rows that the code has of a number of rows, to the nearest; a half is rounded up. -/
def topRows (s : Split) (height : Nat) : Nat :=
  (2 * height * s.percent + 100) / 200

/-- The area of the code and that of the annotations. -/
def areas (a : Area) (s : Split) : Area × Area :=
  let top := s.topRows a.height
  ({ a with height := top }, { a with y := a.y + top, height := a.height - top })

/-- Whether the divider is on a row: it is the first row of the annotations. -/
def isDivider (a : Area) (row : Nat) (s : Split) : Bool :=
  let below := (s.areas a).2
  0 < below.height && row == below.y

end Split
end CodeGloss
