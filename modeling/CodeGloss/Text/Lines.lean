import CodeGloss.Text.Blank

/-!
# Lines

A source text is a list of lines.  Lines end at a line feed and lose one trailing carriage return,
so both common terminators give the same lines; a text without a line feed is one line, the empty
text included.
-/

namespace CodeGloss

/-- How many values a word has.  Columns and rows are counted in words, and a sum that does not fit
into one wraps around. -/
def wordSize : Nat := 0x10000000000000000

/-- One line of source text, without its terminator. -/
abbrev Line := List Char

namespace Line

/-- The line without one trailing carriage return. -/
def withoutReturn (line : Line) : Line :=
  if line.getLast? = some '\r' then line.dropLast else line

/-- The lines of a text. -/
def ofText (text : List Char) : List Line :=
  (Text.splitOn (· == '\n') text).map withoutReturn

/-- The lines that a text shows: of a last line that nothing is on there is no trace, and a carriage
return only belongs to the end of a line if a line feed follows. -/
def shown (text : List Char) : List Line :=
  let lines := Text.splitOn (· == '\n') text
  let unended := lines.getLastD []
  lines.dropLast.map withoutReturn ++ if unended.isEmpty then [] else [unended]

/-- Lines put back together with line feeds between them. -/
def joined (lines : List Line) : List Char :=
  ['\n'].intercalate lines

/-- The leading blanks of the line, measured in columns.  A tab is `tabWidth` columns wide wherever
it stands and every other blank is one, and the sum is that of words. -/
def indent (tabWidth : Nat) (line : Line) : Nat :=
  (line.takeWhile Text.isBlank).foldr (fun c n => (if c == '\t' then tabWidth else 1) + n) 0 %
    wordSize

end Line
end CodeGloss
