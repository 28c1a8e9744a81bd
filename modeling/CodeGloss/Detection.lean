import CodeGloss.Header.Recognition
import CodeGloss.Outline

/-!
# Detection

The definitions of a source text.  Each line is looked at on its own: if it holds a header and the
header's block has an extent in the lines that follow, there is a definition.  What a line yields
depends on that line and the lines after it, and on nothing before it.
-/

namespace CodeGloss

namespace Detection

/-- The definition that starts on the line `header`, the line with number `number`, when `rest`
follows. -/
def definitionAt? (options : Block.Options) (hint : Hint) (number : Nat) (header : Line)
    (rest : List Line) : Option Definition :=
  match Header.recognize hint header with
  | none => none
  | some h =>
    match Block.extent? options h.style header rest with
    | none => none
    | some extent =>
      some
        { kind := h.kind
          name := h.name
          firstLine := number
          lastLine := number + extent
          text := String.ofList (Line.joined (header :: rest.take extent)) }

/-- The definitions that start on the given lines, the first of which has the number `number`. -/
def candidates (options : Block.Options) (hint : Hint) : Nat → List Line → List Definition
  | _, [] => []
  | number, header :: rest =>
    match definitionAt? options hint number header rest with
    | none => candidates options hint (number + 1) rest
    | some d => d :: candidates options hint (number + 1) rest

end Detection

/-- The outline of a source text. -/
def Outline.ofText (options : Block.Options) (hint : Hint) (text : String) : Outline :=
  if Text.isAllBlank text.toList then {}
  else .ofCandidates (Detection.candidates options hint 1 (Line.ofText text.toList))

end CodeGloss
