import CodeGloss.View.Rows

/-!
# Painters

Colouring is left to a painter.  It is made for a grammar and a theme and is given the lines of a
text from above, each with the line feed that ends it, since grammars are written for lines that
end.  It divides each line into pieces and says how they look, or fails at it.

The line feeds are taken off the pieces again, and pieces with nothing left are no segments.  If the
painter fails at some line, all lines are left plain.

A painter may carry on from line to line what it likes.  The one that carries on nothing and takes
each line for one piece is `Painter.uniform`.
-/

namespace CodeGloss

namespace Painter

/-! ## Pieces -/

/-- A colour that may be more or less opaque. -/
structure Tint where
  /-- The part of red. -/
  red : UInt8 := 0
  /-- The part of green. -/
  green : UInt8 := 0
  /-- The part of blue. -/
  blue : UInt8 := 0
  /-- How opaque it is. -/
  alpha : UInt8 := 0
deriving DecidableEq, Repr

/-- How a piece of a line is painted. -/
structure Paint where
  /-- The colour of the letters. -/
  foreground : Tint := {}
  /-- The colour behind the letters. -/
  background : Tint := {}
  /-- Whether the letters are bold. -/
  bold : Bool := false
  /-- Whether the letters are slanted. -/
  italic : Bool := false
  /-- Whether the letters are underlined. -/
  underline : Bool := false
deriving DecidableEq, Repr

/-- A piece of a line. -/
structure Piece where
  /-- The text of the piece. -/
  text : List Char
  /-- How it is painted. -/
  paint : Paint
deriving DecidableEq, Repr

/-- The colour to be seen.  One that is not opaque at all is the usual one. -/
def Tint.colour? (t : Tint) : Option Colour :=
  if t.alpha == 0 then none else some ⟨t.red, t.green, t.blue⟩

/-- How a piece looks. -/
def Paint.look (p : Paint) : Look where
  foreground := p.foreground.colour?
  background := p.background.colour?
  bold := p.bold
  italic := p.italic
  underline := p.underline

/-- A text without one line feed at its end. -/
def withoutFeed (s : List Char) : List Char :=
  if s.getLast? = some '\n' then s.dropLast else s

/-- The segment for a piece, if there is something to it. -/
def Piece.segment? (piece : Piece) : Option Segment :=
  let text := withoutFeed piece.text
  if text.isEmpty then none else some ⟨text, piece.paint.look⟩

end Painter

/-! ## Lines -/

/-- What divides lines into pieces. -/
structure Painter where
  /-- What is carried on from line to line. -/
  State : Type
  /-- The start of a text that is painted by a grammar and in a theme. -/
  start (grammar theme : String) : State
  /-- The pieces of the next line, if it does not fail. -/
  divide? : State → List Char → Option (State × List Painter.Piece)

namespace Painter

variable (painter : Painter)

/-- The segments of some lines. -/
def segmentsFrom? : painter.State → List Line → Option (List (List Segment))
  | _, [] => some []
  | state, line :: rest => do
    let (state, pieces) ← painter.divide? state (line ++ ['\n'])
    let others ← segmentsFrom? state rest
    some (pieces.filterMap Piece.segment? :: others)

/-- The painter that takes each line for one piece and paints all of them alike. -/
def uniform (paint : Paint) : Painter where
  State := Unit
  start _ _ := ()
  divide? _ line := some ((), [⟨line, paint⟩])

end Painter

/-- Paints lines as the path, the language and the theme ask for. -/
def Painting.paintBy (painter : Painter) (path : Option String) (hint : Hint) (theme : String)
    (lines : List Line) (firsts : Grammar.FirstLines) : Painting :=
  let theme := Theme.choose theme
  match Grammar.choose path hint lines firsts with
  | some grammar =>
    match painter.segmentsFrom? (painter.start grammar theme) lines with
    | some segments => ⟨segments, some grammar, theme⟩
    | none => plain lines theme
  | none => plain lines theme

/-! ## Views -/

/-- The view of a text with its outline and selection, painted by a painter. -/
def View.buildBy (painter : Painter) (text : String) (o : Outline) (selection : Selection)
    (hint : Hint) (path : Option String) (theme : String) (firsts : Grammar.FirstLines) : View :=
  let lines := shownLines text
  let painting := Painting.paintBy painter path hint theme lines firsts
  { rows := rowsFrom o selection 1 (lines.zip painting.lines)
    grammar := painting.grammar
    theme := painting.theme }

/-! ## The painter that takes each line for one piece -/

namespace Painter

theorem segmentsFrom?_uniform (paint : Paint) (lines : List Line) :
    (uniform paint).segmentsFrom? () lines =
      some (lines.map fun l => if l.isEmpty then [] else [⟨l, paint.look⟩]) := by
  induction lines with
  | nil => rfl
  | cons line rest ih =>
    have feed : withoutFeed (line ++ ['\n']) = line := by
      rw [withoutFeed, List.getLast?_concat, if_pos rfl, List.dropLast_concat]
    have pieces : ([⟨line ++ ['\n'], paint⟩] : List Piece).filterMap Piece.segment? =
        if line.isEmpty then [] else [⟨line, paint.look⟩] := by
      rw [List.filterMap_cons, Piece.segment?, feed]
      cases line with
      | nil => rfl
      | cons c line => rfl
    show (((uniform paint).segmentsFrom? () rest).bind fun others => some (_ :: others)) = _
    rw [ih, Option.bind_some, pieces, List.map_cons]

end Painter

/-- Without any colours it paints as lines are painted without a painter. -/
theorem Painting.paintBy_uniform (path : Option String) (hint : Hint) (theme : String)
    (lines : List Line) (firsts : Grammar.FirstLines) :
    paintBy (.uniform {}) path hint theme lines firsts = paint path hint theme lines firsts := by
  unfold paintBy paint
  cases Grammar.choose path hint lines firsts with
  | none => rfl
  | some grammar =>
    show (match (Painter.uniform {}).segmentsFrom? () lines with
      | some segments => Painting.mk segments (some grammar) (Theme.choose theme)
      | none => plain lines (Theme.choose theme)) = colored lines grammar (Theme.choose theme)
    rw [Painter.segmentsFrom?_uniform]
    rfl

theorem View.buildBy_uniform (text : String) (o : Outline) (selection : Selection) (hint : Hint)
    (path : Option String) (theme : String) (firsts : Grammar.FirstLines) :
    buildBy (.uniform {}) text o selection hint path theme firsts =
      build text o selection hint path theme firsts := by
  rw [buildBy, build, Painting.paintBy_uniform]

end CodeGloss
