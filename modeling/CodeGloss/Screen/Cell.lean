import CodeGloss.Text.Lines
import CodeGloss.Text.Width
import CodeGloss.View.Segment

/-!
# Cells

A screen is made up of rows of cells, and each cell shows one symbol in one style.  A symbol that is
two cells wide is followed by a blank cell.  A picture is a list of rows; pictures are put together
from smaller ones by putting rows below and beside each other.
-/

namespace CodeGloss

/-- The colour of something on the screen. -/
inductive Ink where
  /-- What the terminal uses. -/
  | usual
  | cyan
  | darkGray
  | yellow
  /-- A colour given by its parts. -/
  | mixed (colour : Colour)
deriving DecidableEq, Repr

/-- How a cell looks. -/
structure Style where
  /-- The colour of the symbol. -/
  foreground : Ink := .usual
  /-- The colour behind the symbol. -/
  background : Ink := .usual
  /-- Whether the symbol is bold. -/
  bold : Bool := false
  /-- Whether the symbol is slanted. -/
  italic : Bool := false
  /-- Whether the symbol is underlined. -/
  underline : Bool := false
deriving DecidableEq, Repr

/-- A place on the screen. -/
structure Cell where
  /-- The symbol. -/
  symbol : Text.Symbol := .ofChar ' '
  /-- The style. -/
  style : Style := {}
deriving DecidableEq, Repr

/-- A text in one style. -/
structure Piece where
  /-- The style. -/
  style : Style := {}
  /-- The text. -/
  text : List Char
deriving DecidableEq, Repr

namespace Piece

/-- A text in the usual style. -/
def usual (text : List Char) : Piece where
  text := text

/-- The pieces of a text that is shown in one line, whatever lines it is made of: each of these is a
piece. -/
def ofLines (text : List Char) : List Piece :=
  (Line.shown text).map usual

end Piece

namespace Cell

/-- A cell with nothing in it. -/
def blank : Cell := {}

/-- The cell with another symbol. -/
def showing (symbol : Text.Symbol) (c : Cell) : Cell :=
  { c with symbol }

/-- The cell with a symbol added to the one it shows. -/
def adding (symbol : Text.Symbol) (c : Cell) : Cell :=
  { c with symbol := ⟨c.symbol.chars ++ symbol.chars⟩ }

/-- The cells of a symbol: one that shows it, and blank ones for the rest of its width. -/
def ofSymbol (style : Style) (symbol : Text.Symbol) : List Cell :=
  match symbol.width with
  | 0 => []
  | extra + 1 => ⟨symbol, style⟩ :: List.replicate extra blank

/-- Cells that show the same character in one style. -/
def line (n : Nat) (c : Char) (style : Style) : List Cell :=
  List.replicate n ⟨.ofChar c, style⟩

/-- The text in a row of cells, without the spaces at its end. -/
def rowText (row : List Cell) : String :=
  let s := row.flatMap fun c => c.symbol.chars
  String.ofList (s.reverse.dropWhile (· == ' ')).reverse

/-- The cells of some symbols, as far as they fit into the room: the first one that does not fit ends
the row. -/
def fit : Nat → List (Style × Text.Symbol) → List Cell
  | _, [] => []
  | room, (style, symbol) :: rest =>
    if room < symbol.width then []
    else ofSymbol style symbol ++ fit (room - symbol.width) rest

/-- The symbols of a line of pieces.  No symbol reaches from one piece into the next. -/
def symbols (pieces : List Piece) : List (Style × Text.Symbol) :=
  pieces.flatMap fun p => (Text.shownSymbols p.text).map fun symbol => (p.style, symbol)

/-- A row with more cells at its end, up to a width. -/
def padded (width : Nat) (filler : Cell) (row : List Cell) : List Cell :=
  row ++ List.replicate (width - row.length) filler

/-- A row of the given width that shows a line of pieces.  Symbols that are wider than the row are
left out. -/
def strip (width : Nat) (pieces : List Piece) : List Cell :=
  padded width blank (fit width ((symbols pieces).filter fun (_, symbol) => symbol.width ≤ width))

end Cell

/-- Rows of cells. -/
abbrev Picture := List (List Cell)

namespace Picture

/-- A picture of the given size: rows that are missing are blank, and those that are too many are cut
off. -/
def ofRows (width height : Nat) (rows : Picture) : Picture :=
  rows.take height ++ List.replicate (height - rows.length) (List.replicate width Cell.blank)

/-- A picture with room to the left and above. -/
def placed (left above width : Nat) (p : Picture) : Picture :=
  List.replicate above (List.replicate (left + width) Cell.blank) ++
    p.map (List.replicate left Cell.blank ++ ·)

/-- A row as a terminal shows it when the cell in front of it is as wide as given.  What is behind a
symbol that takes up more than one cell does not get onto the screen. -/
def rowOnScreen (before : Nat) : List Cell → List Cell
  | [] => []
  | c :: rest =>
    (if 1 < before then Cell.blank else c) :: rowOnScreen c.symbol.width rest

/-- The picture as a terminal shows it. -/
def onScreen (p : Picture) : Picture :=
  p.map (rowOnScreen 1)

/-- The text in each row. -/
def texts (p : Picture) : List String :=
  p.map Cell.rowText

end Picture
end CodeGloss
