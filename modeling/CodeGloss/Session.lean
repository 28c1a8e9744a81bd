import CodeGloss.Broker.Demand
import CodeGloss.Detection
import CodeGloss.Selection

/-!
# Sessions

A session holds the source text that is being annotated and everything that follows from it: the
outline is always that of the text, and the selection is always part of the outline.  If a file is
loaded, it is the one that the session's broker knows.

Operations that can fail leave the session as it was when they do.
-/

namespace CodeGloss

open Service (Answer FileRecord Inquiry)

/-- A source text that is being annotated. -/
structure Session where
  /-- How the text is read. -/
  options : Block.Options := {}
  /-- The language of the text. -/
  hint : Hint := none
  /-- The text. -/
  text : String := ""
  /-- The definitions of the text. -/
  outline : Outline := {}
  /-- The selected definition. -/
  selection : Selection := {}
  /-- The file that the text was loaded as. -/
  fileId : Option String := none
  /-- Where the annotations come from. -/
  broker : Broker := {}

namespace Session

/-! ## The text -/

/-- The session with its outline and selection renewed, and whether the selection had to be given
up. -/
def renew (s : Session) : Session × Bool :=
  let outline := Outline.ofText s.options s.hint s.text
  let (selection, gone) := s.selection.follow outline
  ({ s with outline, selection }, gone)

/-- Replaces the text. -/
def setText (text : String) (s : Session) : Session × Bool :=
  { s with text }.renew

/-- Replaces the language. -/
def setLanguage (hint : Hint) (s : Session) : Session × Bool :=
  { s with hint }.renew

/-- Loads a file.  Nothing is selected then, and no annotations are known. -/
def loadFile (fileId text : String) (s : Session) : Session :=
  ({ s with
      broker := s.broker.switchFile (some fileId)
      fileId := some fileId
      selection := .empty }.setText text).1

/-- Has a text stored under a name, by a service that answers at once, and loads it as the file that
it was stored as.  If it was not stored nothing changes but the log. -/
def upload (service : Inquiry → Answer) (name text : String) (s : Session) :
    Session × Except Service.Failure FileRecord :=
  let inquiry := Inquiry.upload name text
  let asked := { s with broker := s.broker.issue inquiry }
  match (service inquiry).toFile with
  | .ok file => (asked.loadFile file.id text, .ok file)
  | .error failure => (asked, .error failure)

/-! ## The selection -/

/-- The selected definition. -/
def selected? (s : Session) : Option Definition :=
  s.selection.selected?

/-- Selects the definition that starts on a line. -/
def selectLine (line : Nat) (s : Session) : Except Selection.Failure (Session × Definition) :=
  (Selection.selectLine s.outline line).map fun r => ({ s with selection := r.1 }, r.2)

/-- Selects the first definition of a name. -/
def selectName (name : String) (s : Session) : Except Selection.Failure (Session × Definition) :=
  (Selection.selectName s.outline name).map fun r => ({ s with selection := r.1 }, r.2)

/-- Selects the definition at a position of the outline, or nothing. -/
def selectPosition (position : Nat) (s : Session) : Session :=
  { s with selection := Selection.selectPosition s.outline position }

/-- Selects nothing. -/
def clearSelection (s : Session) : Session :=
  { s with selection := .empty }

/-- The position of the selected definition in the outline. -/
def selectedPosition? (s : Session) : Option Nat :=
  s.selected?.bind s.outline.position?

/-! ## Requests for annotations -/

/-- What is needed to demand an annotation: a definition and its file. -/
structure Request where
  /-- The file. -/
  fileId : String
  /-- The definition. -/
  definition : Definition
deriving DecidableEq, Repr

/-- Why no annotation can be demanded. -/
inductive Obstacle where
  /-- No definition is selected. -/
  | noSelection
  /-- No file is loaded. -/
  | noFile
deriving DecidableEq, Repr

/-- The report of an obstacle. -/
def Obstacle.message : Obstacle → String
  | noSelection => "nothing is selected"
  | noFile => "no file loaded; upload the source first"

/-- What the selection and the loaded file give to demand an annotation. -/
def request (s : Session) : Except Obstacle Request :=
  match s.selected?, s.fileId with
  | none, _ => .error .noSelection
  | some _, none => .error .noFile
  | some definition, some fileId => .ok { fileId, definition }

/-- Whether a request is about what is loaded and selected now. -/
def isCurrent (s : Session) (r : Request) : Bool :=
  s.fileId == some r.fileId && s.selection.isSelected r.definition

end Session
end CodeGloss
