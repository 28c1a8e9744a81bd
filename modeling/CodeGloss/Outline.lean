import CodeGloss.Definition

/-!
# Outlines

The outline of a source text: its definitions in the order of their first lines, each of them once.
Of candidates with equal keys the first is kept, and definitions that start on one line stay in the
order in which they were found.
-/

namespace CodeGloss

/-- The definitions of a text, in order and without repetition. -/
structure Outline where
  /-- The definitions. -/
  definitions : List Definition := []
deriving DecidableEq, Repr, Inhabited

namespace Outline

/-- The candidates without those whose key has come before. -/
def distinct (seen : List Definition.Key) : List Definition → List Definition
  | [] => []
  | d :: rest =>
    if seen.contains d.key then distinct seen rest else d :: distinct (d.key :: seen) rest

/-- The outline made up of some candidates. -/
def ofCandidates (candidates : List Definition) : Outline :=
  ⟨(distinct [] candidates).mergeSort fun a b => a.firstLine ≤ b.firstLine⟩

variable (o : Outline)

/-- The number of definitions. -/
def size : Nat := o.definitions.length

/-- The definition at a position. -/
def get? (position : Nat) : Option Definition :=
  o.definitions[position]?

/-- The definition that starts on a line. -/
def startingOn? (line : Nat) : Option Definition :=
  o.definitions.find? (·.firstLine == line)

/-- The first definition of a name. -/
def named? (name : String) : Option Definition :=
  o.definitions.find? (·.name == name)

/-- The position of the definition with the key of `d`. -/
def position? (d : Definition) : Option Nat :=
  o.definitions.findIdx? (·.key == d.key)

/-- Whether a definition with the key of `d` is there. -/
def contains (d : Definition) : Bool :=
  (o.position? d).isSome

/-- The shortest of some definitions, the first of them where several are. -/
def shortest? : List Definition → Option Definition
  | [] => none
  | d :: rest =>
    match shortest? rest with
    | none => some d
    | some other => if other.lineCount < d.lineCount then some other else some d

/-- The innermost definition that covers a line: the shortest one. -/
def innermost? (line : Nat) : Option Definition :=
  shortest? (o.definitions.filter (·.covers line))

end Outline
end CodeGloss
