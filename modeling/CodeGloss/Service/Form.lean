/-!
# Percent and form encoding

Bytes that may not stand for themselves in a URL are written as a percent sign and two hexadecimal
digits.  In forms a blank is written as a plus sign and only letters, digits and four marks stand for
themselves.  `percentDecode` and `formDecode` read the two forms back.
-/

namespace CodeGloss
namespace Service
namespace Form

/-- The bytes of a text. -/
def bytes (s : List Char) : List UInt8 :=
  s.flatMap String.utf8EncodeChar

/-- An upper-case hexadecimal digit. -/
def hexDigit (n : Nat) : Char :=
  if n < 10 then Char.ofNat ('0'.toNat + n) else Char.ofNat ('A'.toNat + (n - 10))

/-- A byte as a percent sign and two digits. -/
def percent (b : UInt8) : List Char :=
  ['%', hexDigit (b.toNat / 16), hexDigit (b.toNat % 16)]

/-- Writes every character that is not `plain` byte by byte. -/
def percentEncode (plain : Char → Bool) (s : List Char) : List Char :=
  s.flatMap fun c => if plain c then [c] else (String.utf8EncodeChar c).flatMap percent

/-- A character that stands for itself in a form. -/
def isFormPlain (c : Char) : Bool :=
  ('a' ≤ c && c ≤ 'z') || ('A' ≤ c && c ≤ 'Z') || ('0' ≤ c && c ≤ '9') ||
    ['*', '-', '.', '_'].contains c

/-- A text as it stands in a form. -/
def encode (s : String) : List Char :=
  s.toList.flatMap fun c =>
    if c == ' ' then ['+']
    else if isFormPlain c then [c]
    else (String.utf8EncodeChar c).flatMap percent

/-- A field of a form. -/
def field (name value : String) : List Char :=
  encode name ++ '=' :: encode value

/-- The fields of a form. -/
def fields (pairs : List (String × String)) : List Char :=
  ['&'].intercalate (pairs.map fun p => field p.1 p.2)

/-! ## Reading back -/

/-- The value of a hexadecimal digit of either case. -/
def hexValue? (c : Char) : Option Nat :=
  if '0' ≤ c && c ≤ '9' then some (c.toNat - '0'.toNat)
  else if 'A' ≤ c && c ≤ 'F' then some (c.toNat - 'A'.toNat + 10)
  else if 'a' ≤ c && c ≤ 'f' then some (c.toNat - 'a'.toNat + 10)
  else none

/-- The bytes that a percent-encoded text stands for.  A percent sign that two digits do not follow
stands for itself. -/
def decodeBytes : List Char → List UInt8
  | [] => []
  | '%' :: a :: b :: rest =>
    match hexValue? a, hexValue? b with
    | some x, some y => UInt8.ofNat (x * 16 + y) :: decodeBytes rest
    | _, _ => String.utf8EncodeChar '%' ++ decodeBytes (a :: b :: rest)
  | c :: rest => String.utf8EncodeChar c ++ decodeBytes rest

/-- The text that a percent-encoded text stands for, if its bytes are a text. -/
def percentDecode? (s : List Char) : Option String :=
  String.fromUTF8? (decodeBytes s).toByteArray

/-- The text that stands in a form as `s`. -/
def decode? (s : List Char) : Option String :=
  percentDecode? (s.map fun c => if c == '+' then ' ' else c)

end Form
end Service
end CodeGloss
