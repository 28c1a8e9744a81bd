import CodeGloss.Json.Value

/-!
# Reading JSON

A strict reader: one value with white space around it, and nothing else.  There are no trailing
commas, no control characters inside strings, no leading zeros.  Values may be nested to any depth;
the fuel of the recursion is computed from the length of the text and never runs out first.

Strings are read one escape at a time.  A code unit that is the first half of a surrogate pair is
kept pending until the next escape completes it; if anything else comes instead, or if a second half
comes alone, the string has no text, though reading goes on.
-/

namespace CodeGloss
namespace Json
namespace Reader

/-! ## Strings -/

/-- The value of a hexadecimal digit. -/
def hexDigit? (c : Char) : Option Nat :=
  if '0' ≤ c && c ≤ '9' then some (c.toNat - '0'.toNat)
  else if 'a' ≤ c && c ≤ 'f' then some (c.toNat - 'a'.toNat + 10)
  else if 'A' ≤ c && c ≤ 'F' then some (c.toNat - 'A'.toNat + 10)
  else none

/-- The code unit that four hexadecimal digits spell. -/
def codeUnit? (a b c d : Char) : Option Nat := do
  let a ← hexDigit? a
  let b ← hexDigit? b
  let c ← hexDigit? c
  let d ← hexDigit? d
  some (((a * 16 + b) * 16 + c) * 16 + d)

/-- The character that a one-letter escape stands for. -/
def shortEscape? (c : Char) : Option Char :=
  match c with
  | '"' => some '"'
  | '\\' => some '\\'
  | '/' => some '/'
  | 'b' => some '\x08'
  | 'f' => some '\x0c'
  | 'n' => some '\n'
  | 'r' => some '\r'
  | 't' => some '\t'
  | _ => none

/-- The text of a string read so far. -/
structure Unfinished where
  /-- Its characters in reverse, unless the text is spoilt. -/
  reversed? : Option (List Char) := some []
  /-- The first half of a surrogate pair, if the last escape was one. -/
  pending? : Option Nat := none
deriving Inhabited

namespace Unfinished

/-- The text with one more character.  A pending half pair spoils it. -/
def push (p : Unfinished) (c : Char) : Unfinished :=
  match p.pending? with
  | none => ⟨p.reversed?.map (c :: ·), none⟩
  | some _ => ⟨none, none⟩

/-- The text with one more code unit. -/
def pushUnit (p : Unfinished) (unit : Nat) : Unfinished :=
  if 0xDC00 ≤ unit && unit ≤ 0xDFFF then
    match p.pending? with
    | some high =>
      let c := Char.ofNat (0x10000 + (high - 0xD800) * 0x400 + (unit - 0xDC00))
      ⟨p.reversed?.map (c :: ·), none⟩
    | none => ⟨none, none⟩
  else if 0xD800 ≤ unit && unit ≤ 0xDBFF then
    match p.pending? with
    | some _ => ⟨none, some unit⟩
    | none => ⟨p.reversed?, some unit⟩
  else p.push (Char.ofNat unit)

/-- The text at the end of the string. -/
def text? (p : Unfinished) : Option String :=
  match p.pending? with
  | none => p.reversed?.map fun r => String.ofList r.reverse
  | some _ => none

end Unfinished

/-- Reads the rest of a string, up to and with its closing quote. -/
def string? (p : Unfinished) : List Char → Option (Option String × List Char)
  | '"' :: rest => some (p.text?, rest)
  | '\\' :: 'u' :: a :: b :: c :: d :: rest =>
    match codeUnit? a b c d with
    | some unit => string? (p.pushUnit unit) rest
    | none => none
  | '\\' :: e :: rest =>
    match shortEscape? e with
    | some c => string? (p.push c) rest
    | none => none
  | c :: rest => if c == '\\' || c.toNat < 0x20 then none else string? (p.push c) rest
  | [] => none

/-! ## Numbers -/

/-- A decimal digit. -/
def isDigit (c : Char) : Bool :=
  '0' ≤ c && c ≤ '9'

/-- The number that decimal digits spell. -/
def numeral (digits : List Char) : Nat :=
  digits.foldl (fun n c => n * 10 + (c.toNat - '0'.toNat)) 0

/-- Reads at least one digit. -/
def digits? (s : List Char) : Option (List Char × List Char) :=
  match s.takeWhile isDigit with
  | [] => none
  | digits => some (digits, s.dropWhile isDigit)

/-- Reads the digits before the point: a zero alone, or digits that start with none. -/
def whole? : List Char → Option (List Char × List Char)
  | '0' :: rest => some (['0'], rest)
  | s => digits? s

/-- Reads a fraction, if one starts here. -/
def fraction? : List Char → Option (List Char × List Char)
  | '.' :: rest => (digits? rest).map fun r => ('.' :: r.1, r.2)
  | s => some ([], s)

/-- Reads the sign of an exponent, if there is one. -/
def exponentSign : List Char → List Char × List Char
  | '+' :: rest => (['+'], rest)
  | '-' :: rest => (['-'], rest)
  | s => ([], s)

/-- Reads an exponent, if one starts here. -/
def exponent? (s : List Char) : Option (List Char × List Char) :=
  match s with
  | [] => some ([], s)
  | e :: rest =>
    if e == 'e' || e == 'E' then
      let (sign, rest) := exponentSign rest
      (digits? rest).map fun r => (e :: sign ++ r.1, r.2)
    else some ([], s)

/-- Reads a number. -/
def number? (s : List Char) : Option (Value × List Char) := do
  let (sign, s) := match s with
    | '-' :: rest => (['-'], rest)
    | s => ([], s)
  let (whole, s) ← whole? s
  let (fraction, s) ← fraction? s
  let (exponent, s) ← exponent? s
  let tail := fraction ++ exponent
  if sign.isEmpty && tail.isEmpty then some (.natural (numeral whole), s)
  else some (.otherNumber (String.ofList (sign ++ whole ++ tail)), s)

/-! ## Values -/

/-- White space between the parts of a value. -/
def isSpace (c : Char) : Bool :=
  c == ' ' || c == '\n' || c == '\t' || c == '\r'

/-- What follows white space. -/
def skipSpace (s : List Char) : List Char :=
  s.dropWhile isSpace

/-- Reads a fixed word. -/
def keyword? (word : String) (v : Value) (s : List Char) : Option (Value × List Char) :=
  if word.toList.isPrefixOf s then some (v, s.drop word.length) else none

mutual

/-- Reads a value. -/
def value? : Nat → List Char → Option (Value × List Char)
  | 0, _ => none
  | fuel + 1, s =>
    match skipSpace s with
    | '"' :: rest => (string? {} rest).map fun r => (.string r.1, r.2)
    | '[' :: rest =>
      match skipSpace rest with
      | ']' :: rest => some (.array [], rest)
      | rest => (items? fuel rest).map fun r => (.array r.1, r.2)
    | '{' :: rest =>
      match skipSpace rest with
      | '}' :: rest => some (.object [], rest)
      | rest => (members? fuel rest).map fun r => (.object r.1, r.2)
    | 'n' :: rest => keyword? "ull" .null rest
    | 't' :: rest => keyword? "rue" (.bool true) rest
    | 'f' :: rest => keyword? "alse" (.bool false) rest
    | s => number? s

/-- Reads the items of a list, of which there is at least one, up to and with its bracket. -/
def items? : Nat → List Char → Option (List Value × List Char)
  | 0, _ => none
  | fuel + 1, s =>
    match value? fuel s with
    | none => none
    | some (v, s) =>
      match skipSpace s with
      | ',' :: rest => (items? fuel rest).map fun r => (v :: r.1, r.2)
      | ']' :: rest => some ([v], rest)
      | _ => none

/-- Reads the members of an object, of which there is at least one, up to and with its brace. -/
def members? : Nat → List Char → Option (List (Option String × Value) × List Char)
  | 0, _ => none
  | fuel + 1, s =>
    match skipSpace s with
    | '"' :: rest =>
      match string? {} rest with
      | none => none
      | some (key, s) =>
        match skipSpace s with
        | ':' :: rest =>
          match value? fuel rest with
          | none => none
          | some (v, s) =>
            match skipSpace s with
            | ',' :: rest => (members? fuel rest).map fun r => ((key, v) :: r.1, r.2)
            | '}' :: rest => some ([(key, v)], rest)
            | _ => none
        | _ => none
    | _ => none

end

end Reader

/-- The value that a text spells. -/
def read? (text : String) : Option Value :=
  let s := text.toList
  match Reader.value? (2 * s.length + 2) s with
  | some (v, rest) => if (Reader.skipSpace rest).isEmpty then some v else none
  | none => none

end Json
end CodeGloss
