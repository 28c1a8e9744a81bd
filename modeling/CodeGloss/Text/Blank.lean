/-!
# Blank characters

What counts as white space everywhere in the library, and the trimming and word splitting built on
it.  The class is the Unicode `White_Space` property, so the ideographic space and the line
separators are blank, while a zero-width space, a byte order mark and the ASCII information
separators are not.

* `isBlank`: the class.
* `trimStart`, `trimEnd`, `trim`: blanks taken off the ends of a text.
* `splitOn`: the pieces of a text between separators, empty ones included.
* `words`: the maximal blank-free pieces.
-/

namespace CodeGloss
namespace Text

/-- White space, as the Unicode property of that name has it. -/
def isBlank (c : Char) : Bool :=
  let n := c.toNat
  (9 ≤ n && n ≤ 13) || n == 0x20 || n == 0x85 || n == 0xA0 || n == 0x1680 ||
    (0x2000 ≤ n && n ≤ 0x200A) || n == 0x2028 || n == 0x2029 || n == 0x202F || n == 0x205F ||
    n == 0x3000

/-! ## Trimming -/

/-- The text without its leading blanks. -/
def trimStart (s : List Char) : List Char :=
  s.dropWhile isBlank

/-- The text without its trailing blanks. -/
def trimEnd (s : List Char) : List Char :=
  (s.reverse.dropWhile isBlank).reverse

/-- The text without the blanks at either end. -/
def trim (s : List Char) : List Char :=
  trimEnd (trimStart s)

/-- A text of blanks only, the empty text included. -/
def isAllBlank (s : List Char) : Bool :=
  s.all isBlank

/-- `trim` on strings. -/
def trimmed (s : String) : String :=
  String.ofList (trim s.toList)

/-! ## Pieces -/

/-- The pieces between the characters that satisfy `p`.  There is always one more piece than there
are separators. -/
def splitOn (p : Char → Bool) (s : List Char) : List (List Char) :=
  s.foldr
    (fun c pieces =>
      if p c then [] :: pieces
      else
        match pieces with
        | [] => [[c]]
        | piece :: others => (c :: piece) :: others)
    [[]]

@[simp] theorem splitOn_nil (p : Char → Bool) : splitOn p [] = [[]] := rfl

/-- The maximal blank-free pieces of a text. -/
def words (s : List Char) : List (List Char) :=
  (splitOn isBlank s).filter fun w => !w.isEmpty

end Text
end CodeGloss
