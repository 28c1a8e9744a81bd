import CodeGloss.Text.Lines

/-!
# Blocks by indentation

A block that is marked by indentation lasts as long as its lines are indented deeper than the header
line.  Blank lines never end it, but they belong to it only when a deeper line follows.

The extent of a block is the number of lines after the header that belong to it.
-/

namespace CodeGloss
namespace Block
namespace Indent

variable (tabWidth base : Nat)

/-- Walks over the lines after the header.  `seen` lines have been read, of which `held` belong to
the block for sure. -/
def walk (seen held : Nat) : List Line → Nat
  | [] => held
  | line :: rest =>
    if Text.isAllBlank line then walk (seen + 1) held rest
    else if base < line.indent tabWidth then walk (seen + 1) (seen + 1) rest
    else held

/-- How many of the lines in `rest` belong to the block that `header` opens. -/
def extent (header : Line) (rest : List Line) : Nat :=
  walk tabWidth (header.indent tabWidth) 0 0 rest

end Indent
end Block
end CodeGloss
