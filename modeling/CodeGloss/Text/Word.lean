import CodeGloss.Text.AlphanumericRanges
import CodeGloss.Text.WordRanges

/-!
# Word characters

The two classes of characters that make up names.  `isWord` is the class that name patterns use: it
takes in marks and connector punctuation, so `_` and `é` written with a combining accent are word
characters.  `isAlphanumeric` is the class of letters and numbers, which takes in superscript digits
and leaves out `_`.  ASCII is decided on the spot and the rest is looked up.
-/

namespace CodeGloss
namespace Text

/-- Whether `n` lies in one of the inclusive `ranges`. -/
def inRanges (ranges : List (Nat × Nat)) (n : Nat) : Bool :=
  ranges.any fun r => r.1 ≤ n && n ≤ r.2

/-- An ASCII letter, in either case. -/
def isLetter (c : Char) : Bool :=
  ('a' ≤ c && c ≤ 'z') || ('A' ≤ c && c ≤ 'Z')

/-- An ASCII decimal digit. -/
def isDigit (c : Char) : Bool :=
  '0' ≤ c && c ≤ '9'

/-- Letters, marks, decimal digits, connector punctuation and joining controls. -/
def isWord (c : Char) : Bool :=
  if c.toNat < 128 then isLetter c || isDigit c || c == '_'
  else inRanges wordRanges c.toNat

/-- Letters and numbers of every sort. -/
def isAlphanumeric (c : Char) : Bool :=
  if c.toNat < 128 then isLetter c || isDigit c
  else inRanges alphanumericRanges c.toNat

end Text
end CodeGloss
