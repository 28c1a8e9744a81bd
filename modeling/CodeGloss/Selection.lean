import CodeGloss.Outline

/-!
# Selection

At most one definition of an outline is selected.  The selection holds a copy of the definition, and
`Selection.follow` renews the copy when the outline changes or gives the selection up when its
definition is gone.  Looking for a definition that is not there leaves the selection as it was.
-/

namespace CodeGloss

/-- The selected definition, if there is one. -/
structure Selection where
  /-- A copy of the definition. -/
  selected? : Option Definition := none
deriving DecidableEq, Repr, Inhabited

namespace Selection

/-- Why nothing was selected. -/
inductive Failure where
  /-- No definition starts on the line. -/
  | noneOnLine (line : Nat)
  /-- No definition has the name. -/
  | noneNamed (name : String)
deriving DecidableEq, Repr

/-- The report of a failure. -/
def Failure.message : Failure → String
  | noneOnLine line => "no definition starts on line " ++ toString line
  | noneNamed name => "no definition named '" ++ name ++ "'"

/-- The nothing-selected state. -/
def empty : Selection := {}

variable (s : Selection) (o : Outline)

/-- Selects the definition that starts on a line. -/
def selectLine (line : Nat) : Except Failure (Selection × Definition) :=
  match o.startingOn? line with
  | some d => .ok (⟨some d⟩, d)
  | none => .error (.noneOnLine line)

/-- Selects the first definition of a name. -/
def selectName (name : String) : Except Failure (Selection × Definition) :=
  match o.named? name with
  | some d => .ok (⟨some d⟩, d)
  | none => .error (.noneNamed name)

/-- Selects the definition at a position, and nothing if the outline has no such position. -/
def selectPosition (position : Nat) : Selection :=
  ⟨o.get? position⟩

/-- The selection after the outline has changed, and whether it had to be given up.  The copy is
replaced by the outline's, so that its text follows an edit. -/
def follow : Selection × Bool :=
  match s.selected? with
  | none => (s, false)
  | some d =>
    match (o.position? d).bind o.get? with
    | some renewed => (⟨some renewed⟩, false)
    | none => (empty, true)

/-- Whether a definition has the key of the selected one. -/
def isSelected (d : Definition) : Bool :=
  s.selected?.any (·.key == d.key)

/-- The selected lines, first and last. -/
def range? : Option (Nat × Nat) :=
  s.selected?.map fun d => (d.firstLine, d.lastLine)

end Selection
end CodeGloss
