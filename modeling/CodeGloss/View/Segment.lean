/-!
# Segments

A line of source code is shown in segments, each with one look.
-/

namespace CodeGloss

/-- A colour, by its parts of red, green and blue. -/
structure Colour where
  /-- The part of red. -/
  red : UInt8
  /-- The part of green. -/
  green : UInt8
  /-- The part of blue. -/
  blue : UInt8
deriving DecidableEq, Repr

/-- How a piece of text looks. -/
structure Look where
  /-- The colour of the letters, unless it is the usual one. -/
  foreground : Option Colour := none
  /-- The colour behind the letters, unless it is the usual one. -/
  background : Option Colour := none
  /-- Whether the letters are bold. -/
  bold : Bool := false
  /-- Whether the letters are slanted. -/
  italic : Bool := false
  /-- Whether the letters are underlined. -/
  underline : Bool := false
deriving DecidableEq, Repr

/-- A piece of a line. -/
structure Segment where
  /-- The text of the piece. -/
  text : List Char
  /-- Its look. -/
  look : Look := {}
deriving DecidableEq, Repr

namespace Segment

/-- The line that some segments make up. -/
def joined (segments : List Segment) : List Char :=
  segments.flatMap Segment.text

end Segment
end CodeGloss
