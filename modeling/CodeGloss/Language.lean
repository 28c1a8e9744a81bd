import CodeGloss.Path

/-!
# Languages

The languages whose definitions the library knows how to find, and the hints that pick one.  A hint
is a language or nothing: without a language every header rule is tried.  The names accepted for a
hint include the usual file extensions, so that reading a hint from a name and from an extension is
one operation.
-/

namespace CodeGloss

/-- A language whose definition headers are known. -/
inductive Language where
  | python
  | javaScript
  | typeScript
  | java
  | cSharp
  | cpp
  | go
  | rust
deriving DecidableEq, Repr, Inhabited

/-- A guess at the language of a text; `none` leaves the choice to the header rules. -/
abbrev Hint := Option Language

namespace Language

/-- The short name under which the grammars of the highlighter know the language.  There is no
grammar for TypeScript, so it shares the one of JavaScript. -/
def grammarToken : Language → String
  | python => "py"
  | javaScript => "js"
  | typeScript => "js"
  | java => "java"
  | cSharp => "cs"
  | cpp => "cpp"
  | go => "go"
  | rust => "rs"

end Language

namespace Hint

/-- The name of a hint. -/
def name : Hint → String
  | none => "auto"
  | some .python => "python"
  | some .javaScript => "javascript"
  | some .typeScript => "typescript"
  | some .java => "java"
  | some .cSharp => "csharp"
  | some .cpp => "cpp"
  | some .go => "go"
  | some .rust => "rust"

/-- Every accepted spelling, in lower case, with the hint that it stands for. -/
def spellings : List (String × Hint) :=
  [("", none), ("auto", none)] ++
    ["python", "py", "pyw"].map (·, some Language.python) ++
    ["javascript", "js", "jsx", "mjs", "cjs"].map (·, some Language.javaScript) ++
    ["typescript", "ts", "tsx", "mts", "cts"].map (·, some Language.typeScript) ++
    ["java"].map (·, some Language.java) ++
    ["csharp", "c#", "cs"].map (·, some Language.cSharp) ++
    ["cpp", "c++", "c", "cc", "cxx", "h", "hpp", "hh"].map (·, some Language.cpp) ++
    ["go", "golang"].map (·, some Language.go) ++
    ["rust", "rs"].map (·, some Language.rust)

/-- A name that stands for no language, in the normal form in which it was looked up. -/
structure Unknown where
  /-- The name, trimmed and in lower case. -/
  name : String
deriving DecidableEq, Repr

/-- The report of an unknown name. -/
def Unknown.message (e : Unknown) : String :=
  "unknown language '" ++ e.name ++ "'"

/-- The form in which names are compared: trimmed, with ASCII letters in lower case. -/
def normalName (value : String) : String :=
  String.ofList ((Text.trim value.toList).map Char.toLower)

/-- The hint that a name or a file extension stands for. -/
def parse (value : String) : Except Unknown Hint :=
  match spellings.lookup (normalName value) with
  | some hint => .ok hint
  | none => .error ⟨normalName value⟩

/-- As `parse`, with no language for an unknown name. -/
def parseLenient (value : String) : Hint :=
  match parse value with
  | .ok hint => hint
  | .error _ => none

/-- The language of the file that a path leads to, as its extension tells it. -/
def ofPath (path : String) : Hint :=
  match Path.extension? path with
  | some e => parseLenient e
  | none => none

end Hint
end CodeGloss
