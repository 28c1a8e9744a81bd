import CodeGloss.Json.Value

/-!
# Writing JSON

Values are written over several lines: every item and every member stands on a line of its own,
indented by two blanks more than the brackets around it, and empty lists and objects are written on
the spot.  In strings only quotes, backslashes and control characters are escaped, a control
character by its letter where it has one.
-/

namespace CodeGloss
namespace Json
namespace Writer

/-- A lower-case hexadecimal digit. -/
def hexDigit (n : Nat) : Char :=
  if n < 10 then Char.ofNat ('0'.toNat + n) else Char.ofNat ('a'.toNat + (n - 10))

/-- A character as it stands inside a string. -/
def escape (c : Char) : List Char :=
  match c with
  | '"' => ['\\', '"']
  | '\\' => ['\\', '\\']
  | '\n' => ['\\', 'n']
  | '\r' => ['\\', 'r']
  | '\t' => ['\\', 't']
  | '\x08' => ['\\', 'b']
  | '\x0c' => ['\\', 'f']
  | c =>
    if c.toNat < 0x20 then ['\\', 'u', '0', '0', hexDigit (c.toNat / 16), hexDigit (c.toNat % 16)]
    else [c]

/-- A string in quotes.  One without a text is written as half of a surrogate pair. -/
def quote : Option String → List Char
  | some text => '"' :: (text.toList.flatMap escape ++ ['"'])
  | none => "\"\\ud800\"".toList

/-- The start of a line that is indented `depth` times. -/
def newLine (depth : Nat) : List Char :=
  '\n' :: List.replicate (2 * depth) ' '

mutual

/-- Writes a value that stands `depth` brackets deep. -/
def value (depth : Nat) : Value → List Char
  | .null => "null".toList
  | .bool true => "true".toList
  | .bool false => "false".toList
  | .natural n => (toString n).toList
  | .otherNumber spelling => spelling.toList
  | .string text => quote text
  | .array [] => ['[', ']']
  | .array (v :: vs) =>
    '[' :: newLine (depth + 1) ++ value (depth + 1) v ++ items (depth + 1) vs ++
      newLine depth ++ [']']
  | .object [] => ['{', '}']
  | .object ((k, v) :: ms) =>
    '{' :: newLine (depth + 1) ++ quote k ++ [':', ' '] ++ value (depth + 1) v ++
      members (depth + 1) ms ++ newLine depth ++ ['}']

/-- Writes the items after the first. -/
def items (depth : Nat) : List Value → List Char
  | [] => []
  | v :: vs => ',' :: newLine depth ++ value depth v ++ items depth vs

/-- Writes the members after the first. -/
def members (depth : Nat) : List (Option String × Value) → List Char
  | [] => []
  | (k, v) :: ms =>
    ',' :: newLine depth ++ quote k ++ [':', ' '] ++ value depth v ++ members depth ms

end

end Writer

/-- The text of a value. -/
def write (v : Value) : String :=
  String.ofList (Writer.value 0 v)

end Json
end CodeGloss
