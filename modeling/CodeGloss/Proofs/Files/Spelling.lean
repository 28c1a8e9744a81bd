import CodeGloss.Path
import CodeGloss.Proofs.Text.Decoding

/-!
# Paths as text

A path without a NUL is text.  It stands for the bytes of its characters, and it is its own text
(`Path.text_of_plain`).  With the bytes that belong to no character there is a path for every sequence
of bytes (`Path.bytes_spelled`), so nothing is left out if paths are written as text.
-/

namespace CodeGloss
namespace Path

variable {c : Char} {rest : List Char}

/-- A character stands for its bytes, unless it spells a byte together with the next one. -/
theorem bytesOf_cons (apart : ∀ d ∈ rest.head?, isSpelledByte c d = false) :
    bytesOf (c :: rest) = String.utf8EncodeChar c ++ bytesOf rest := by
  cases rest with
  | nil => rw [bytesOf, bytesOf, List.append_nil]
  | cons d rest => rw [bytesOf, if_neg (Bool.eq_false_iff.mp (apart d rfl))]

theorem bytesOf_of_plain {s : List Char} (plain : '\x00' ∉ s) :
    bytesOf s = s.flatMap String.utf8EncodeChar := by
  induction s with
  | nil => rfl
  | cons c rest ih =>
    obtain ⟨other, plain⟩ := not_or.mp (List.mem_cons.not.mp plain)
    have apart : ∀ d, isSpelledByte c d = false := by
      intro d
      rw [isSpelledByte, beq_eq_false_iff_ne.mpr (Ne.symm other)]
      rfl
    rw [bytesOf_cons fun d _ => apart d, ih plain, List.flatMap_cons]

/-- **A path without a NUL is its own text.** -/
theorem text_of_plain {path : String} (plain : '\x00' ∉ path.toList) : text path = path := by
  rw [text, bytes, bytesOf_of_plain plain, Text.decode_flatMap]

/-! ## Every sequence of bytes -/

/-- The spelling of a byte. -/
def spelled (b : UInt8) : List Char :=
  if b.toNat < 0x80 then [Char.ofNat b.toNat] else ['\x00', Char.ofNat b.toNat]

theorem toNat_ofNat_toNat (b : UInt8) : (Char.ofNat b.toNat).toNat = b.toNat := by
  have small := b.toNat_lt
  have valid : b.toNat.isValidChar := .inl (by omega)
  rw [Char.ofNat, dif_pos valid]
  rfl

/-- No spelling starts with the second character of one. -/
theorem isSpelledByte_of_head? {bs : List UInt8} (c : Char) :
    ∀ d ∈ (bs.flatMap spelled).head?, isSpelledByte c d = false := by
  have small : ∀ d ∈ (bs.flatMap spelled).head?, d.toNat < 0x80 := by
    cases bs with
    | nil => nofun
    | cons b bs =>
      rw [List.flatMap_cons, spelled]
      split
      next small =>
        rintro d ⟨⟩
        rwa [toNat_ofNat_toNat]
      next =>
        rintro d ⟨⟩
        decide
  intro d mem
  have not_le : ¬0x80 ≤ d.toNat := Nat.not_le.mpr (small d mem)
  rw [isSpelledByte, decide_eq_false not_le, Bool.and_false, Bool.false_and]

/-- **Every sequence of bytes is that of a path.** -/
theorem bytes_spelled (bs : List UInt8) : bytes (String.ofList (bs.flatMap spelled)) = bs := by
  rw [bytes, String.toList_ofList]
  induction bs with
  | nil => rfl
  | cons b bs ih =>
    rw [List.flatMap_cons, spelled]
    split
    next small =>
      have one : String.utf8EncodeChar (Char.ofNat b.toNat) = [b] := by
        have value : (Char.ofNat b.toNat).val.toNat = b.toNat := toNat_ofNat_toNat b
        rw [String.utf8EncodeChar]
        simp only [value]
        rw [if_pos (by omega), UInt8.ofNat_toNat]
      rw [List.singleton_append, bytesOf_cons (isSpelledByte_of_head? _), ih, one]
      rfl
    next large =>
      have number := toNat_ofNat_toNat b
      have byte : isSpelledByte '\x00' (Char.ofNat b.toNat) = true := by
        have small := b.toNat_lt
        rw [isSpelledByte, number, decide_eq_true (Nat.not_lt.mp large), decide_eq_true small]
        rfl
      rw [List.cons_append, List.singleton_append, bytesOf, if_pos byte, ih, number,
        UInt8.ofNat_toNat]

end Path
end CodeGloss
