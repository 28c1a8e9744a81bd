import CodeGloss.Text.Width

/-!
# Wrapping

A long line is broken into rows, between words where that is possible.  The symbols of the line are
taken one by one into the word that is being read, or into the blanks in front of it; when a word is
complete it is moved to the row with its blanks, and when the row is full the next one is begun.
Blanks that would have gone to the end of a row are dropped, and one more.

A line may be trimmed, which means that no row begins with the blanks in front of a word.
-/

namespace CodeGloss

open Text (Symbol)

/-- A line that is being wrapped. -/
structure Wrap where
  /-- The rows that are complete. -/
  rows : List (List Symbol) := []
  /-- The row that is being filled. -/
  row : List Symbol := []
  /-- The blanks in front of the word. -/
  blanks : List Symbol := []
  /-- The word that is being read. -/
  word : List Symbol := []
  /-- Whether the last symbol belonged to a word. -/
  inWord : Bool := false
deriving DecidableEq, Repr

namespace Wrap

/-- The number of cells that some symbols take up. -/
def widthOf (symbols : List Symbol) : Nat :=
  symbols.foldr (fun s n => s.width + n) 0

/-- What is left of some blanks when those that fit into the room are dropped, and the next one.
There is nothing left and nothing more to drop when the room was enough for all of them. -/
def dropBlanks : Nat → List Symbol → Option (List Symbol)
  | _, [] => none
  | room, s :: rest => if room < s.width then some rest else dropBlanks (room - s.width) rest

/-- Moves the word and its blanks to the row. -/
def flush (trim : Bool) (w : Wrap) : Wrap :=
  let row := if trim && w.row.isEmpty then w.row else w.row ++ w.blanks
  { w with row := row ++ w.word, blanks := [], word := [] }

/-- Whether the word has to go to the row before a symbol is read. -/
def isDue (trim : Bool) (width : Nat) (w : Wrap) (s : Symbol) : Bool :=
  (w.inWord && s.isBlank) ||
    (w.row.isEmpty &&
      if trim then width < widthOf w.word + s.width || width < widthOf w.blanks + s.width
      else width < widthOf w.word + widthOf w.blanks + s.width)

/-- Reads a symbol into the blanks or the word. -/
def push (w : Wrap) (s : Symbol) : Wrap :=
  if s.isBlank then { w with blanks := w.blanks ++ [s], inWord := false }
  else { w with word := w.word ++ [s], inWord := true }

/-- Whether the row is complete before a symbol is read. -/
def isFull (width : Nat) (w : Wrap) (s : Symbol) : Bool :=
  width ≤ widthOf w.row ||
    (0 < s.width && width ≤ widthOf w.row + widthOf w.blanks + widthOf w.word)

/-- Reads a symbol.  Symbols that are wider than a row are left out. -/
def step (trim : Bool) (width : Nat) (w : Wrap) (s : Symbol) : Wrap :=
  if width < s.width then w
  else
    let w := if w.isDue trim width s then w.flush trim else w
    if w.isFull width s then
      let next := { w with rows := w.rows ++ [w.row], row := [] }
      match dropBlanks (width - widthOf w.row) w.blanks with
      | some blanks => { next with blanks }.push s
      | none => if s.isBlank then { next with blanks := [] } else { next with blanks := [] }.push s
    else w.push s

/-- The rows when the line has been read. -/
def finish (trim : Bool) (w : Wrap) : List (List Symbol) :=
  let onlyBlanks := w.row.isEmpty && w.word.isEmpty && !w.blanks.isEmpty
  let rows := if onlyBlanks then w.rows ++ [[]] else w.rows
  let last := if onlyBlanks then [] else (w.flush trim).row
  let rows := if last.isEmpty then rows else rows ++ [last]
  if rows.isEmpty then [[]] else rows

/-- The rows of a line. -/
def rowsOf (trim : Bool) (width : Nat) (line : List Symbol) : List (List Symbol) :=
  if width = 0 then []
  else finish trim (line.foldl (step trim width) {})

end Wrap
end CodeGloss
