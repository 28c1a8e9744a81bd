import CodeGloss.Definition
import CodeGloss.Screen.Frame
import CodeGloss.Screen.Wrap

/-!
# The annotation panel

The panel shows a definition, what is said about it, and more detail on that if it was asked for.
-/

namespace CodeGloss

/-- What the panel has to show in one place. -/
inductive Note where
  /-- Nothing. -/
  | empty
  /-- That a text is on its way. -/
  | loading
  /-- A text. -/
  | ready (text : String)
  /-- Why there is no text. -/
  | failed (message : String)
deriving DecidableEq, Repr, Inhabited

namespace Note

/-- The text, if it is there. -/
def text? : Note → Option String
  | ready text => some text
  | _ => none

end Note

/-- What is shown about a definition. -/
structure Panel where
  /-- The definition. -/
  definition : Option Definition := none
  /-- What is said about it. -/
  gloss : Note := .empty
  /-- More detail on that. -/
  detail : Note := .empty
deriving DecidableEq, Repr, Inhabited

namespace Panel

/-- The panel that shows a definition about which nothing is said. -/
def showing (d : Definition) : Panel where
  definition := some d

/-- The lines for a note; `invitation` stands for an empty one unless it is empty itself.  The reason
why there is no text is one line, whatever lines it is made of. -/
def noteLines (invitation : String) : Note → List (List Piece)
  | .empty => if invitation.isEmpty then [] else [[.usual invitation.toList]]
  | .loading => [[.usual "Loading…".toList]]
  | .ready text => (Line.shown text.toList).map fun line => [.usual line]
  | .failed message => [Piece.ofLines ("Failed: " ++ message).toList]

/-- The line that names a definition. -/
def heading (d : Definition) : List Piece :=
  [.usual d.kind.word.toList, .usual [' '], .usual d.name.toList,
    .usual ("  lines " ++ toString d.firstLine ++ "-" ++ toString d.lastLine).toList]

/-- What the panel says when there is no definition to show. -/
def placeholder : List Piece :=
  [.usual "Click a definition or press enter to annotate it".toList]

/-- The lines that the panel shows about a definition. -/
def lines (p : Panel) (d : Definition) : List (List Piece) :=
  [heading d, []] ++ noteLines "press enter to annotate" p.gloss ++
    if p.detail = .empty then []
    else [[], [.usual "More detail".toList]] ++ noteLines "" p.detail

/-- The rows that the panel shows in the given width. -/
def rows (p : Panel) (width : Nat) : List (List Text.Symbol) :=
  let wrapped := fun trim (line : List Piece) =>
    Wrap.rowsOf trim width ((Cell.symbols line).map (·.2))
  match p.definition with
  | none => wrapped true placeholder
  | some d => (p.lines d).flatMap (wrapped false)

/-- The panel in an area of the given size.  The last symbol of a row may be wider than the room that
is left for it. -/
def draw (p : Panel) (hasFocus : Bool) (width height : Nat) : Picture :=
  let inside := (p.rows (width - 2)).map fun row =>
    Cell.padded (width - 2) Cell.blank ((row.flatMap (Cell.ofSymbol {})).take (width - 2))
  Frame.around (Frame.style hasFocus) "Annotation".toList width height
    (Picture.ofRows (width - 2) (height - 2) inside)

end Panel
end CodeGloss
