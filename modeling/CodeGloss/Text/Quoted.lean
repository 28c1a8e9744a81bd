import CodeGloss.Text.HiddenRanges
import CodeGloss.Text.Word

/-!
# Quoted text

Text between double quotes, in which everything that could not be seen is spelled out: line breaks
and tabs by a letter, other invisible characters by the hexadecimal number of the character.
-/

namespace CodeGloss
namespace Text

/-- Whether a character can be seen by itself. -/
def isVisible (c : Char) : Bool :=
  if c.toNat < 0x80 then 0x20 ≤ c.toNat && c.toNat != 0x7F
  else !(inRanges hiddenRanges c.toNat)

/-- The spelling of a character between quotes. -/
def quotedChar (c : Char) : List Char :=
  if c == '"' then ['\\', '"']
  else if c == '\\' then ['\\', '\\']
  else if c == '\n' then ['\\', 'n']
  else if c == '\r' then ['\\', 'r']
  else if c == '\t' then ['\\', 't']
  else if c.toNat == 0 then ['\\', '0']
  else if isVisible c then [c]
  else ['\\', 'u', '{'] ++ Nat.toDigits 16 c.toNat ++ ['}']

/-- A text between quotes. -/
def quoted (s : String) : String :=
  String.ofList (['"'] ++ s.toList.flatMap quotedChar ++ ['"'])

end Text
end CodeGloss
