import CodeGloss.Screen.Cell

/-!
# Titles

A title is written over a row of cells and changes what they show, but not how they look.  It is made
up of pieces, and each piece begins where the one before it ends by its width, even if the symbols of
that one take up more room.

Symbols of no width are not lost: they are added to the symbol before them, and those at the start of
a piece to the one after them.
-/

namespace CodeGloss
namespace Title

/-- A row with the cell at a column changed, and blank cells behind it for the rest of a width. -/
def put (column width : Nat) (change : Cell → Cell) (row : List Cell) : List Cell :=
  row.mapIdx fun i cell =>
    if i = column then change cell
    else if column < i && i < column + width then Cell.blank
    else cell

/-- A row over which the symbols of a piece are written from a column on, as far as they fit in front
of the column `stop`.  The first one was written at the column `first`. -/
def writeSymbols (first stop column : Nat) : List Text.Symbol → List Cell → List Cell
  | [], row => row
  | s :: rest, row =>
    if stop < column + s.width then row
    else
      let row :=
        if column = first then put column s.width (·.adding s) row
        else if s.width = 0 then put (column - 1) 0 (·.adding s) row
        else put column s.width (·.showing s) row
      writeSymbols first stop (column + s.width) rest row

/-- A row over which a piece is written from a column on. -/
def writePiece (first stop : Nat) (piece : List Char) (row : List Cell) : List Cell :=
  match Text.shownSymbols piece with
  | [] => row
  | s :: rest =>
    if stop < first + s.width then row
    else writeSymbols first stop (first + s.width) rest (put first s.width (·.showing s) row)

/-- A row over which pieces are written from a column on, in front of the column `stop`.  Pieces that
take up no room are left out. -/
def writePieces (stop column : Nat) : List (List Char) → List Cell → List Cell
  | [], row => row
  | piece :: rest, row =>
    let width := Text.width piece
    if stop ≤ column then row
    else if width = 0 then writePieces stop column rest row
    else writePieces stop (column + width) rest (writePiece column stop piece row)

/-- A row over which a title is written, as far as it fits. -/
def written (row : List Cell) (pieces : List (List Char)) : List Cell :=
  let width := pieces.foldr (fun piece n => Text.width piece + n) 0
  writePieces (min width row.length) 0 pieces row

end Title
end CodeGloss
