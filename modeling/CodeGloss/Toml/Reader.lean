import CodeGloss.Calendar
import CodeGloss.Toml.Value

/-!
# Reading TOML

A reader for version 1.0 of the format.  A text is a sequence of lines that each hold a key with its
value, a table header, or nothing but a comment.  Values may go on over several lines inside brackets
and triple quotes.  Whole numbers have 64 bits.  Lists and braced tables may be nested up to a fixed depth,
which is the fuel of the recursion.
-/

namespace CodeGloss
namespace Toml
namespace Reader

/-! ## Blanks, comments and line ends -/

/-- A blank within a line. -/
def isBlank (c : Char) : Bool :=
  c == ' ' || c == '\t'

/-- What follows the blanks. -/
def skipBlanks (s : List Char) : List Char :=
  s.dropWhile isBlank

/-- A character that may stand in a comment. -/
def isCommentChar (c : Char) : Bool :=
  c == '\t' || (0x20 ≤ c.toNat && c.toNat != 0x7F)

/-- What follows a line end. -/
def afterNewline? : List Char → Option (List Char)
  | '\n' :: rest => some rest
  | '\r' :: '\n' :: rest => some rest
  | _ => none

/-- What follows a comment, if one starts here. -/
def skipComment (s : List Char) : List Char :=
  match s with
  | '#' :: rest => rest.dropWhile isCommentChar
  | s => s

/-- What follows the rest of a line that holds nothing more than a comment. -/
def endOfLine? (s : List Char) : Option (List Char) :=
  match skipComment (skipBlanks s) with
  | [] => some []
  | s => afterNewline? s

/-- What follows blanks, comments and line ends. -/
def skipSpace : Nat → List Char → List Char
  | 0, s => s
  | fuel + 1, s =>
    let s := skipComment (skipBlanks s)
    match afterNewline? s with
    | some rest => skipSpace fuel rest
    | none => s

/-! ## Strings -/

/-- The value of a hexadecimal digit. -/
def hexDigit? (c : Char) : Option Nat :=
  if '0' ≤ c && c ≤ '9' then some (c.toNat - '0'.toNat)
  else if 'a' ≤ c && c ≤ 'f' then some (c.toNat - 'a'.toNat + 10)
  else if 'A' ≤ c && c ≤ 'F' then some (c.toNat - 'A'.toNat + 10)
  else none

/-- The character whose number some hexadecimal digits spell. -/
def charOfHex? (digits : List Char) : Option Char := do
  let n ← digits.foldlM (fun n c => (hexDigit? c).map fun d => n * 16 + d) 0
  if n < 0xD800 || (0xE000 ≤ n && n < 0x110000) then some (Char.ofNat n) else none

/-- Reads an escape after its backslash. -/
def escape? : List Char → Option (Char × List Char)
  | 'b' :: rest => some ('\x08', rest)
  | 't' :: rest => some ('\t', rest)
  | 'n' :: rest => some ('\n', rest)
  | 'f' :: rest => some ('\x0c', rest)
  | 'r' :: rest => some ('\r', rest)
  | '"' :: rest => some ('"', rest)
  | '\\' :: rest => some ('\\', rest)
  | 'u' :: rest =>
    if rest.length < 4 then none else (charOfHex? (rest.take 4)).map (·, rest.drop 4)
  | 'U' :: rest =>
    if rest.length < 8 then none else (charOfHex? (rest.take 8)).map (·, rest.drop 8)
  | _ => none

/-- A character that may stand for itself in a string. -/
def isStringChar (c : Char) : Bool :=
  c == '\t' || (0x20 ≤ c.toNat && c.toNat != 0x7F)

/-- Reads the rest of a string in double quotes; `text` is what has been read, in reverse. -/
def basic? : Nat → List Char → List Char → Option (String × List Char)
  | 0, _, _ => none
  | _ + 1, _, [] => none
  | fuel + 1, text, c :: rest =>
    if c == '"' then some (String.ofList text.reverse, rest)
    else if c == '\\' then (escape? rest).bind fun r => basic? fuel (r.1 :: text) r.2
    else if isStringChar c then basic? fuel (c :: text) rest
    else none

/-- Reads the rest of a string in single quotes. -/
def literal? (s : List Char) : Option (String × List Char) :=
  match s.dropWhile fun c => isStringChar c && c != '\'' with
  | '\'' :: rest =>
    some (String.ofList (s.takeWhile fun c => isStringChar c && c != '\''), rest)
  | _ => none

/-- Whether a backslash stands at the end of its line. -/
def breaksLine (rest : List Char) : Bool :=
  (afterNewline? (skipBlanks rest)).isSome

/-- What follows blanks and line ends. -/
def skipBreaks : Nat → List Char → List Char
  | 0, s => s
  | fuel + 1, s =>
    let s := skipBlanks s
    match afterNewline? s with
    | some rest => skipBreaks fuel rest
    | none => s

/-- Reads the rest of a string in triple quotes.  In double quotes there are escapes, and a backslash
at the end of a line takes the line end and all blanks after it away.  One or two quotes right before
the closing ones belong to the string. -/
def long? (quote : Char) : Nat → List Char → List Char → Option (String × List Char)
  | 0, _, _ => none
  | _ + 1, _, [] => none
  | fuel + 1, text, c :: rest =>
    if c == quote then
      let quotes := 1 + (rest.takeWhile (· == quote)).length
      if quotes < 3 then long? quote fuel (c :: text) rest
      else
        let extra := min (quotes - 3) 2
        some (String.ofList (List.replicate extra quote ++ text).reverse, rest.drop (extra + 2))
    else if c == '\\' && quote == '"' then
      if breaksLine rest then long? quote fuel text (skipBreaks rest.length rest)
      else (escape? rest).bind fun r => long? quote fuel (r.1 :: text) r.2
    else
      match afterNewline? (c :: rest) with
      | some rest => long? quote fuel ('\n' :: text) rest
      | none => if isStringChar c then long? quote fuel (c :: text) rest else none

/-- Reads a string that starts with `quote`, which has been read. -/
def string? (quote : Char) (rest : List Char) : Option (String × List Char) :=
  match rest with
  | a :: b :: inner =>
    if a == quote && b == quote then
      let inner := (afterNewline? inner).getD inner
      long? quote (inner.length + 1) [] inner
    else if quote == '"' then basic? (rest.length + 1) [] rest
    else literal? rest
  | _ => if quote == '"' then basic? (rest.length + 1) [] rest else literal? rest

/-! ## Keys -/

/-- A character of a key without quotes. -/
def isKeyChar (c : Char) : Bool :=
  ('a' ≤ c && c ≤ 'z') || ('A' ≤ c && c ≤ 'Z') || ('0' ≤ c && c ≤ '9') || c == '-' || c == '_'

/-- Reads a simple key. -/
def simpleKey? (s : List Char) : Option (String × List Char) :=
  match s with
  | '"' :: rest => basic? (rest.length + 1) [] rest
  | '\'' :: rest => literal? rest
  | s =>
    match s.takeWhile isKeyChar with
    | [] => none
    | key => some (String.ofList key, s.dropWhile isKeyChar)

/-- The largest number of names in a key, and of brackets and braces around a value. -/
def depthLimit : Nat := 79

/-- Reads a dotted key: the names before the last dot, and the last name. -/
def key? : Nat → List Char → Option (List String × String × List Char)
  | 0, _ => none
  | fuel + 1, s => do
    let (name, s) ← simpleKey? (skipBlanks s)
    match skipBlanks s with
    | '.' :: rest =>
      let (names, last, s) ← key? fuel rest
      some (name :: names, last, s)
    | s => some ([], name, s)

/-! ## Numbers, dates and words -/

/-- The digits of a number with underscores between them, if there is a digit on either side of
each. -/
def digits? (isDigit : Char → Bool) (s : List Char) : Option (List Char) :=
  go false s
where
  /-- Reads on; `after` says whether a digit came just before. -/
  go (after : Bool) : List Char → Option (List Char)
    | [] => if after then some [] else none
    | c :: rest =>
      if c == '_' then (if after then go false rest else none)
      else if isDigit c then (go true rest).map (c :: ·)
      else none

/-- The number that digits spell. -/
def numeral (base : Nat) (digits : List Char) : Nat :=
  digits.foldl (fun n c => n * base + (hexDigit? c).getD 0) 0

/-- A digit below `base`. -/
def isDigitBelow (base : Nat) (c : Char) : Bool :=
  (hexDigit? c).any fun d => d < base

/-- A number within 64 bits. -/
def within64 (n : Int) : Option Int :=
  if -0x8000000000000000 ≤ n && n < 0x8000000000000000 then some n else none

/-- The sign of a number, and what follows. -/
def sign (s : List Char) : Int × List Char :=
  match s with
  | '+' :: rest => (1, rest)
  | '-' :: rest => (-1, rest)
  | s => (1, s)

/-- The digits of a whole number in base ten: they do not start with a zero, unless there is only
one. -/
def wholeDigits? (s : List Char) : Option (List Char) := do
  let digits ← digits? (isDigitBelow 10) s
  if digits.length > 1 && digits.head? == some '0' then none else some digits

/-- The whole number that a word spells. -/
def integer? (word : List Char) : Option Int :=
  let inBase := fun (base : Nat) (rest : List Char) => do
    let digits ← digits? (isDigitBelow base) rest
    within64 (numeral base digits)
  match word with
  | '0' :: 'x' :: rest => inBase 16 rest
  | '0' :: 'o' :: rest => inBase 8 rest
  | '0' :: 'b' :: rest => inBase 2 rest
  | word => do
    let (sign, rest) := sign word
    let digits ← wholeDigits? rest
    within64 (sign * numeral 10 digits)

/-- The least whole number that a binary floating-point number of 64 bits rounds to infinity. -/
def floatLimit : Nat := 0x3FFFFFFFFFFFFF <<< 970

/-- A number as it is written with a point or an exponent. -/
structure Decimal where
  /-- All its digits, before and after the point. -/
  digits : List Char
  /-- How many of them are after the point. -/
  places : Nat := 0
  /-- The power of ten by which it is multiplied. -/
  exponent : Int := 0

/-- Whether a number is too large for 64 bits.  Only numbers of about the size of the limit are
compared with it. -/
def Decimal.isTooLarge (d : Decimal) : Bool :=
  let digits := d.digits.dropWhile (· == '0')
  let power := d.exponent - d.places
  let size := digits.length + power
  if digits.isEmpty || size < 300 then false
  else if size > 320 then true
  else floatLimit * Nat.pow 10 (-power).toNat ≤ numeral 10 digits * Nat.pow 10 power.toNat

/-- Reads an exponent, which is all that is left of a word. -/
def exponent? (s : List Char) : Option Int :=
  let (sign, rest) := sign s
  (digits? (isDigitBelow 10) rest).map fun digits => sign * numeral 10 digits

/-- Reads the part of a word from its point on. -/
def fraction? (s : List Char) : Option (List Char × Int) := do
  let isExp := fun c : Char => c == 'e' || c == 'E'
  let digits ← digits? (isDigitBelow 10) (s.takeWhile (!isExp ·))
  match s.dropWhile (!isExp ·) with
  | [] => some (digits, 0)
  | _ :: rest => (exponent? rest).map (digits, ·)

/-- The number with a fraction or an exponent that a word without a sign spells. -/
def decimal? (s : List Char) : Option Decimal := do
  let endsWhole := fun c : Char => c == '.' || c == 'e' || c == 'E'
  let whole ← wholeDigits? (s.takeWhile (!endsWhole ·))
  match s.dropWhile (!endsWhole ·) with
  | '.' :: rest => (fraction? rest).map fun f => ⟨whole ++ f.1, f.1.length, f.2⟩
  | _ :: rest => (exponent? rest).map fun e => ⟨whole, 0, e⟩
  | [] => none

/-- Whether a word is a number with a fraction or an exponent, or no number or an infinite one.  A
number that is too large has to be negative. -/
def isFloat (word : List Char) : Bool :=
  let (sign, s) := sign word
  s == "inf".toList || s == "nan".toList || (decimal? s).any fun d => sign < 0 || !d.isTooLarge

/-- Reads a date. -/
def date? (s : List Char) : Option (List Char) := do
  let (year, month, day, s) ← Calendar.triple? 4 '-' s
  if (Calendar.Date.mk year month day).isValid then some s else none

/-- Reads a time of day with its fraction. -/
def time? (s : List Char) : Option (List Char) := do
  let (hour, minute, second, s) ← Calendar.triple? 2 ':' s
  if hour > 23 || minute > 59 || second > 60 then none
  else (Calendar.fraction? s).map (·.2)

/-- What follows an offset, if one starts here. -/
def skipOffset (s : List Char) : List Char :=
  match s with
  | 'Z' :: rest => rest
  | 'z' :: rest => rest
  | s => if (Calendar.offset? (s.take 6)).isSome then s.drop 6 else s

/-- Reads a date with a time after it, if there is one, or a time. -/
def moment? (s : List Char) : Option (List Char) :=
  match date? s with
  | some rest =>
    match rest with
    | [] => some []
    | c :: after =>
      if c == 'T' || c == 't' || c == ' ' then
        match time? after with
        | some rest => some (skipOffset rest)
        | none => some rest
      else some rest
  | none => time? s

/-- A character of a number, a date or a word. -/
def isWordChar (c : Char) : Bool :=
  isKeyChar c || c == '+' || c == '.' || c == ':'

/-- Reads a number, a date or a word. -/
def word? (s : List Char) : Option (Value × List Char) :=
  match moment? s with
  | some rest => some (.moment, rest)
  | none =>
    let word := s.takeWhile isWordChar
    let rest := s.dropWhile isWordChar
    match integer? word with
    | some n => some (.integer n, rest)
    | none =>
      if word == "true".toList || word == "false".toList || isFloat word then some (.scalar, rest)
      else none

/-! ## Values -/

/-- Reads a key and its value, where `read` reads the value. -/
def pair? (read : List Char → Option (Value × List Char)) (s : List Char) :
    Option (List String × String × Value × List Char) := do
  let (names, key, s) ← key? depthLimit s
  match s with
  | '=' :: rest =>
    let (v, s) ← read (skipBlanks rest)
    some (names, key, v, s)
  | _ => none

/-- Reads the items of a list after its bracket, where `read` reads an item.  A comma may stand
behind the last one. -/
def items? (read : List Char → Option (Value × List Char)) :
    Nat → List Value → List Char → Option (Value × List Char)
  | 0, _, _ => none
  | fuel + 1, before, s =>
    match skipSpace s.length s with
    | ']' :: rest => some (.array before.reverse, rest)
    | s => do
      let (v, s) ← read s
      match skipSpace s.length s with
      | ',' :: rest => items? read fuel (v :: before) rest
      | ']' :: rest => some (.array (v :: before).reverse, rest)
      | _ => none

/-- Reads the pairs of a braced table, of which there is at least one, where `read` reads a value. -/
def pairs? (read : List Char → Option (Value × List Char)) :
    Nat → Entries → List Char → Option (Value × List Char)
  | 0, _, _ => none
  | fuel + 1, before, s => do
    let (names, key, v, s) ← pair? read s
    let entries ← Value.insertDotted key v true names before
    match skipBlanks s with
    | ',' :: rest => pairs? read fuel entries rest
    | '}' :: rest => some (.table .braced entries, rest)
    | _ => none

/-- Reads a value without brackets and braces around it. -/
def plain? (s : List Char) : Option (Value × List Char) :=
  match s with
  | '"' :: rest => (string? '"' rest).map fun r => (.text r.1, r.2)
  | '\'' :: rest => (string? '\'' rest).map fun r => (.text r.1, r.2)
  | s => word? s

/-- Reads a value in which brackets and braces are nested at most `depth` deep. -/
def value? : Nat → List Char → Option (Value × List Char)
  | 0, s => plain? s
  | depth + 1, s =>
    match s with
    | '[' :: rest => items? (value? depth) (rest.length + 1) [] rest
    | '{' :: rest =>
      match skipBlanks rest with
      | '}' :: rest => some (.table .braced [], rest)
      | rest => pairs? (value? depth) (rest.length + 1) [] rest
    | s => plain? s

/-! ## Texts -/

/-- The tables read so far, and the names of the current one. -/
structure Document where
  /-- The table of everything. -/
  root : Entries := []
  /-- The names that lead to the current table. -/
  current : List String := []

namespace Document

/-- Reads a header with one bracket, or with two for a repeated table. -/
def header? (d : Document) (s : List Char) : Option (Document × List Char) :=
  let (repeated, s) := match s with
    | '[' :: rest => (true, rest)
    | s => (false, s)
  do
    let (names, key, s) ← key? depthLimit s
    let rest ← match repeated, s with
      | true, ']' :: ']' :: rest => some rest
      | false, ']' :: rest => some rest
      | _, _ => none
    let rest ← endOfLine? rest
    let root ←
      if repeated then Value.openTables names key d.root else Value.openTable names key d.root
    some (⟨root, names ++ [key]⟩, rest)

/-- Reads a key with its value. -/
def entry? (d : Document) (s : List Char) : Option (Document × List Char) := do
  let (names, key, v, s) ← pair? (value? depthLimit) s
  let rest ← endOfLine? s
  let root ← Value.atHeader (Value.insertDotted key v true names) d.current d.root
  some ({ d with root := root }, rest)

/-- Reads all lines. -/
def lines? : Nat → Document → List Char → Option Document
  | 0, _, _ => none
  | fuel + 1, d, s =>
    match skipBlanks s with
    | [] => some d
    | '[' :: rest => do
      let (d, rest) ← d.header? rest
      lines? fuel d rest
    | '#' :: rest => (endOfLine? ('#' :: rest)).bind (lines? fuel d)
    | s =>
      match afterNewline? s with
      | some rest => lines? fuel d rest
      | none => do
        let (d, rest) ← d.entry? s
        lines? fuel d rest

end Document

end Reader

/-- The table that a text spells, if it is TOML.  A byte order mark in front does not count. -/
def read? (text : String) : Option Entries :=
  let s := match text.toList with
    | '\uFEFF' :: rest => rest
    | s => s
  (Reader.Document.lines? (s.length + 1) {} s).map (·.root)

end Toml
end CodeGloss
