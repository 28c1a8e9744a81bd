/-!
# Decoding

Bytes read as UTF-8 whatever they are.  Where they are no UTF-8 there is a replacement character:
one for each byte that cannot begin a character, and one for the beginning of a character that does
not go on as it must.

The bytes are read one by one.  What is remembered is the character that has begun, with the range in
which its next byte has to be.
-/

namespace CodeGloss
namespace Text

/-- What stands where bytes are no character. -/
def replacement : Char := '\uFFFD'

/-- A character of which some bytes have been read. -/
structure Begun where
  /-- The number that the bytes make up so far. -/
  value : Nat
  /-- How many bytes are missing after the next one. -/
  missing : Nat
  /-- The least that the next byte can be. -/
  low : UInt8 := 0x80
  /-- The greatest that the next byte can be. -/
  high : UInt8 := 0xBF
deriving DecidableEq, Repr

/-- Reads the first byte of a character. -/
def beginChar (b : UInt8) : List Char × Option Begun :=
  let n := b.toNat
  if n < 0x80 then ([Char.ofNat n], none)
  else if n < 0xC2 then ([replacement], none)
  else if n < 0xE0 then ([], some { value := n - 0xC0, missing := 0 })
  else if n < 0xF0 then
    let low := if n = 0xE0 then 0xA0 else 0x80
    let high := if n = 0xED then 0x9F else 0xBF
    ([], some { value := n - 0xE0, missing := 1, low, high })
  else if n < 0xF5 then
    let low := if n = 0xF0 then 0x90 else 0x80
    let high := if n = 0xF4 then 0x8F else 0xBF
    ([], some { value := n - 0xF0, missing := 2, low, high })
  else ([replacement], none)

/-- Reads a byte. -/
def readByte (begun : Option Begun) (b : UInt8) : List Char × Option Begun :=
  match begun with
  | none => beginChar b
  | some c =>
    if c.low ≤ b && b ≤ c.high then
      let value := c.value * 64 + (b.toNat - 0x80)
      match c.missing with
      | 0 => ([Char.ofNat value], none)
      | missing + 1 => ([], some { value, missing })
    else
      let (read, begun) := beginChar b
      (replacement :: read, begun)

/-- The characters that bytes stand for when a character may have begun. -/
def decodeFrom (begun : Option Begun) : List UInt8 → List Char
  | [] => if begun.isSome then [replacement] else []
  | b :: rest =>
    let (read, begun) := readByte begun b
    read ++ decodeFrom begun rest

/-- The text that bytes stand for. -/
def decode (bytes : List UInt8) : String :=
  String.ofList (decodeFrom none bytes)

end Text
end CodeGloss
