import CodeGloss.Browser.Events

/-!
# The screen of the browser

The screen has the code and the annotations in two panes, a row that names the keys, and two rows for
messages.  Drawing also notes where the panes are, which the mouse and the paging keys need to know.
-/

namespace CodeGloss
namespace Browser

/-- The row that names the keys. -/
def keyHints : List Char :=
  "j/k move · ↵ annotate · m more · u upload · r reload · +/- resize · q quit".toList

/-- The message when there is nothing to say. -/
def readyText : String :=
  "Ready · click a definition to annotate it"

/-- The title of the code. -/
def title (b : Browser) : String :=
  let file := match b.session.fileId with
    | some fileId => "file " ++ fileId
    | none => "not uploaded"
  Path.text b.path ++ " · " ++ b.session.hint.name ++ " · " ++ toString b.session.outline.size ++
    " definitions · " ++ file

/-- The number of rows that the panes have on a screen. -/
def mainRows (height : Nat) : Nat :=
  max (height - 3) (min height 6)

/-- The rows for messages: an edge and the message. -/
def statusRows (b : Browser) (width : Nat) : Picture :=
  let message := (b.status.map Status.text).getD readyText
  [Cell.line width '─' {}, Cell.strip width (Piece.ofLines message.toList)]

/-- The browser after it was drawn on a screen of the given size, and what the screen shows. -/
def draw (width height : Nat) (b : Browser) : Browser × Picture :=
  let mainArea : Area := { width := width, height := mainRows height }
  let (codeArea, panelArea) := b.split.areas mainArea
  let code :=
    CodePane.draw b.view b.title b.scroll (!b.split.dragging) width codeArea.height
  let panel := b.panel.draw b.split.dragging width panelArea.height
  let screen := code ++ panel ++ [Cell.strip width [{ text := keyHints }]] ++ b.statusRows width
  ({ b with mainArea, codeArea }, (Picture.ofRows width height screen).onScreen)

/-- The end of the loop in which the browser runs, when it is to be left: it is drawn once more and
ticks once more.  As long as it is not to be left there is no end. -/
def leave? (width height : Nat) (b : Browser) : Option (Browser × Picture) :=
  if b.leaving then
    let (b, screen) := b.draw width height
    some (b.tick, screen)
  else none

end Browser
end CodeGloss
