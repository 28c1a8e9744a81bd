import CodeGloss.Block.Brace
import CodeGloss.Block.Indent

/-!
# Extents of blocks

The two styles of block under one roof, with the options that they share.  An extent says how many
lines after the header line belong to the block; `endOf?` says the same as a position among all
lines of a text.
-/

namespace CodeGloss
namespace Block

/-- How a block is marked. -/
inductive Style where
  /-- By lines that are indented deeper than the header. -/
  | indent
  /-- By a pair of braces. -/
  | brace
deriving DecidableEq, Repr, Inhabited

namespace Style

/-- The word for the style. -/
def word : Style → String
  | indent => "indent"
  | brace => "brace"

end Style

/-- What the search for blocks can be told. -/
structure Options where
  /-- The columns that a tab takes up when indentation is compared. -/
  tabWidth : Nat := 4
  /-- Whether delimiters inside literals and comments count. -/
  counting : Counting := .literalAware
deriving DecidableEq, Repr, Inhabited

/-- How many of the lines in `rest` belong to the block that starts on the line `header`, or `none`
if there is no block. -/
def extent? (options : Options) (style : Style) (header : Line) (rest : List Line) : Option Nat :=
  match style with
  | .indent => some (Indent.extent options.tabWidth header rest)
  | .brace => Brace.extent? options.counting options.tabWidth header rest

/-- The position of the last line of the block that starts at position `start` of `lines`. -/
def endOf? (options : Options) (style : Style) (lines : List Line) (start : Nat) : Option Nat :=
  match lines.drop start with
  | [] => none
  | header :: rest => (extent? options style header rest).map (start + ·)

namespace Counting

/-- The name of a policy. -/
def name : Counting → String
  | literalAware => "literal-aware"
  | naive => "naive"

/-- A name that stands for no policy, in the normal form in which it was looked up. -/
structure Unknown where
  /-- The name, trimmed and in lower case. -/
  name : String
deriving DecidableEq, Repr

/-- The report of an unknown name. -/
def Unknown.message (e : Unknown) : String :=
  "unknown brace counting policy '" ++ e.name ++ "'"

/-- The policy of a name, whatever its case and the blanks around it. -/
def parse (value : String) : Except Unknown Counting :=
  let name := String.ofList ((Text.trim value.toList).map Char.toLower)
  if ["literal-aware", "literal_aware", "aware"].contains name then .ok literalAware
  else if name == "naive" then .ok naive
  else .error ⟨name⟩

end Counting
end Block
end CodeGloss
