import CodeGloss.Definition
import CodeGloss.Json.Value

/-!
# Definitions in JSON

How reports spell a definition: as an object of its five fields, with the kind as a word.  Reading is
freer than writing: the fields may come in any order or as a list, and the kind may be the only key
of an object that holds `null`.
-/

namespace CodeGloss
namespace Definition

open Json

/-- The largest number of a line, and one. -/
def lineLimit : Nat := 0x10000000000000000

/-- A kind, spelled as its word alone or as the only key of an object that holds `null`. -/
def kindOf? : Value → Option Kind
  | .string (some word) => Kind.ofWord? word
  | .object [(some word, .null)] => Kind.ofWord? word
  | _ => none

/-- Reads a definition as reports spell it. -/
def ofJson? (v : Value) : Option Definition := do
  match ← v.fields? ["kind", "name", "lineStart", "lineEnd", "fullText"] 5 with
  | [some kind, some name, some first, some last, some text] =>
    let kind ← kindOf? kind
    let name ← name.text?
    let first ← first.naturalBelow? lineLimit
    let last ← last.naturalBelow? lineLimit
    let text ← text.text?
    some ⟨kind, name, first, last, text⟩
  | _ => none

/-- A definition as reports spell it. -/
def toJson (d : Definition) : Value :=
  .object [(some "kind", .string (some d.kind.word)), (some "name", .string (some d.name)),
    (some "lineStart", .natural d.firstLine), (some "lineEnd", .natural d.lastLine),
    (some "fullText", .string (some d.text))]

end Definition
end CodeGloss
