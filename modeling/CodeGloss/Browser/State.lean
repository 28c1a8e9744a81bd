import CodeGloss.Browser.Task
import CodeGloss.History
import CodeGloss.Screen.CodePane
import CodeGloss.Screen.Panel
import CodeGloss.Settings
import CodeGloss.Text.Decoding
import CodeGloss.Watch

/-!
# The browser

The browser shows one source file with its definitions and the annotation of the selected one.  This
module says what it is made up of, how it is started, and how its parts are kept in step: whenever
the text, the outline or the selection changes, the view is built anew and the panel follows.
-/

namespace CodeGloss

/-- How a message is meant. -/
inductive Level where
  | info
  | success
  | error
deriving DecidableEq, Repr

/-- The word for a level. -/
def Level.word : Level → String
  | info => "info"
  | success => "success"
  | error => "error"

/-- A message at the foot of the screen. -/
structure Status where
  /-- How it is meant. -/
  level : Level
  /-- What it says. -/
  text : String
deriving DecidableEq, Repr

/-- What is to be browsed, and how. -/
structure Browser.Request where
  /-- The path of the source. -/
  path : String
  /-- The file that it is stored as, if that is known. -/
  fileId : Option String := none
  /-- The language of the source. -/
  hint : Hint := none
  /-- The root of the workspace. -/
  root : String := "."
  /-- Whether to read the source again when it changes. -/
  watches : Bool := true
  /-- The settings. -/
  settings : Settings := {}

/-- The browser. -/
structure Browser where
  /-- The files. -/
  disk : Disk
  /-- The path of the source. -/
  path : String
  /-- The root of the workspace. -/
  root : String
  /-- The theme of the colours. -/
  theme : String
  /-- The text and its annotations. -/
  session : Session
  /-- The text as it is shown. -/
  view : View := {}
  /-- The definition that is shown, and what is said about it. -/
  panel : Panel := {}
  /-- Where the divider stands. -/
  split : Split
  /-- How many rows of the view are above the window. -/
  scroll : Nat := 0
  /-- Where the two panes were drawn last. -/
  mainArea : Area := {}
  /-- Where the code was drawn last. -/
  codeArea : Area := {}
  /-- The work in the background, the oldest first. -/
  tasks : List Task := []
  /-- What has come of tasks and was not looked at yet, the oldest first. -/
  deliveries : List Delivery := []
  /-- The watch on the source. -/
  watch : Option Watch := none
  /-- What is remembered of the workspace. -/
  history : History
  /-- The message at the foot of the screen. -/
  status : Option Status := none
  /-- Whether the browser is to be left. -/
  leaving : Bool := false

namespace Browser

/-! ## Parts -/

/-- Shows a message. -/
def say (level : Level) (text : String) (b : Browser) : Browser :=
  { b with status := some ⟨level, text⟩ }

/-- The text of a source file.  What is no UTF-8 in it is replaced. -/
def readSource (disk : Disk) (path : String) : Except Report String :=
  (Fault.during ("failed to read " ++ Path.text path) (disk.readBytes path)).map fun bytes =>
    Text.decode bytes.toList

/-- The browser with its view built anew. -/
def refresh (b : Browser) : Browser :=
  let s := b.session
  { b with
    view :=
      View.build s.text s.outline s.selection s.hint (some b.path) b.theme b.disk.firstLine? }

/-- Saves what is remembered of the workspace. -/
def saveHistory (b : Browser) : Browser :=
  match History.save b.disk b.root b.history with
  | .ok disk => { b with disk }
  | .error report => b.say .error report.line

/-- Remembers where the divider stands. -/
def rememberSplit (b : Browser) : Browser :=
  { b with history := { b.history with splitPercent := some b.split.percent } }.saveHistory

/-! ## The window -/

/-- The number of rows in the window, at least one. -/
def pageRows (b : Browser) : Nat :=
  max (b.codeArea.height - 2) 1

/-- The greatest number of rows that may be above the window. -/
def lastScroll (b : Browser) : Nat :=
  b.view.rows.length - 1

/-- Moves the window down. -/
def scrollDown (rows : Nat) (b : Browser) : Browser :=
  { b with scroll := min (b.scroll + rows) b.lastScroll }

/-- Moves the window up. -/
def scrollUp (rows : Nat) (b : Browser) : Browser :=
  { b with scroll := min (b.scroll - rows) b.lastScroll }

/-- Moves the window as little as is needed to have a line in it. -/
def reveal (line : Nat) (b : Browser) : Browser :=
  let above := line - 1
  if above < b.scroll then { b with scroll := above }
  else if b.scroll + b.pageRows ≤ above then { b with scroll := above + 1 - b.pageRows }
  else b

/-! ## Starting -/

/-- The browser for a request, if what is remembered of the workspace and the source can be read. -/
def start (disk : Disk) (r : Request) : Except Report Browser := do
  let history ← History.loadOrEmpty disk r.root
  let text ← readSource disk r.path
  let settings := r.settings
  let b : Browser :=
    { disk := disk
      path := r.path
      root := r.root
      theme := settings.display.theme
      session := { options := settings.detector.options, hint := r.hint }
      split := .ofPercent (history.splitPercent.getD settings.display.splitPercent)
      watch := if r.watches then (Watch.start disk r.path).toOption else none
      history := history }
  match r.fileId <|> history.fileId? r.path with
  | some fileId => return { b with session := b.session.loadFile fileId text }.refresh
  | none =>
    let b := { b with session := (b.session.setText text).1 }
    return (b.say .info "Not uploaded yet · press u to upload").refresh

end Browser
end CodeGloss
