import CodeGloss.Header.Class
import CodeGloss.Header.Go
import CodeGloss.Header.Indented
import CodeGloss.Header.Rust
import CodeGloss.Header.Script
import CodeGloss.Header.Typed

/-!
# Recognizing headers

All header rules in order of priority.  The header of a line is that of the first rule that applies
under the hint and accepts the line.
-/

namespace CodeGloss
namespace Header

/-- Every rule, first choice first. -/
def rules : List Rule :=
  [pythonDef, pythonClass, scriptFunction, braceClass, scriptBinding, rustFn, rustType, rustImpl,
    goFunc, typedMethod, scriptMethod]

/-- The rules that apply under a hint, first choice first. -/
def rulesFor (hint : Hint) : List Rule :=
  rules.filter (·.appliesTo hint)

/-- The header on a line, if there is one. -/
def recognize (hint : Hint) (line : Line) : Option Header :=
  (rulesFor hint).findSome? (·.header? line)

/-- Every rule that applies under a hint and accepts the line by itself, with the name it finds. -/
def accepting (hint : Hint) (line : Line) : List (String × String) :=
  (rulesFor hint).filterMap fun rule => (rule.header? line).map fun h => (rule.label, h.name)

end Header
end CodeGloss
