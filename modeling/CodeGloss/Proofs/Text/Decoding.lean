import CodeGloss.Text.Decoding
import Mathlib.Data.List.Basic

/-!
# Text as bytes and back

The bytes of a text are read as that text (`Text.decode_utf8Encode`).  A character takes one to four
bytes, and all of them but the first add six bits to its number.  They are in the range in which they
have to be, so none of them is replaced.
-/

namespace CodeGloss
namespace Text

variable {n : Nat} {rest : List UInt8}

theorem toNat_ofNat (small : n < 0x100) : (UInt8.ofNat n).toNat = n := by
  rw [UInt8.toNat_ofNat', Nat.mod_eq_of_lt small]

/-! ## Bytes that go on with a character -/

/-- A byte in the range in which it has to be adds six bits. -/
theorem decodeFrom_next {begun : Begun} (value : begun.value = n / 64)
    (above : begun.low.toNat ≤ n % 64 + 0x80) (below : n % 64 + 0x80 ≤ begun.high.toNat) :
    decodeFrom (some begun) (UInt8.ofNat (n % 64 + 0x80) :: rest) =
      match begun.missing with
      | 0 => Char.ofNat n :: decodeFrom none rest
      | missing + 1 => decodeFrom (some { value := n, missing }) rest := by
  have byte : (UInt8.ofNat (n % 64 + 0x80)).toNat = n % 64 + 0x80 := toNat_ofNat (by omega)
  have fits : (begun.low ≤ UInt8.ofNat (n % 64 + 0x80) &&
      UInt8.ofNat (n % 64 + 0x80) ≤ begun.high) = true := by
    rw [Bool.and_eq_true, decide_eq_true_eq, decide_eq_true_eq, UInt8.le_iff_toNat_le,
      UInt8.le_iff_toNat_le, byte]
    exact ⟨above, below⟩
  have number : begun.value * 64 + (n % 64 + 0x80 - 0x80) = n := by
    omega
  rw [decodeFrom, readByte, if_pos fits, byte, number]
  cases begun.missing <;> rfl

theorem decodeFrom_more (n missing : Nat) (rest : List UInt8) :
    decodeFrom (some { value := n / 64, missing := missing + 1 })
      (UInt8.ofNat (n % 64 + 0x80) :: rest) = decodeFrom (some { value := n, missing }) rest := by
  have above : (0x80 : UInt8).toNat ≤ n % 64 + 0x80 := Nat.le_add_left _ _
  have below : n % 64 + 0x80 ≤ (0xBF : UInt8).toNat := by
    simp only [UInt8.reduceToNat]
    omega
  exact decodeFrom_next rfl above below

theorem decodeFrom_last (n : Nat) (rest : List UInt8) :
    decodeFrom (some { value := n / 64, missing := 0 }) (UInt8.ofNat (n % 64 + 0x80) :: rest) =
      Char.ofNat n :: decodeFrom none rest := by
  have above : (0x80 : UInt8).toNat ≤ n % 64 + 0x80 := Nat.le_add_left _ _
  have below : n % 64 + 0x80 ≤ (0xBF : UInt8).toNat := by
    simp only [UInt8.reduceToNat]
    omega
  exact decodeFrom_next rfl above below

/-! ## Bytes that begin a character -/

theorem decodeFrom_one (small : n ≤ 0x7F) :
    decodeFrom none (UInt8.ofNat n :: rest) = Char.ofNat n :: decodeFrom none rest := by
  rw [decodeFrom, readByte, beginChar, toNat_ofNat (by omega), if_pos (by omega)]
  rfl

theorem decodeFrom_two (large : 0x80 ≤ n) (small : n ≤ 0x7FF) :
    decodeFrom none (UInt8.ofNat (n / 64 % 32 + 0xC0) :: rest) =
      decodeFrom (some { value := n / 64, missing := 0 }) rest := by
  have number : n / 64 % 32 + 0xC0 - 0xC0 = n / 64 := by
    omega
  rw [decodeFrom, readByte, beginChar, toNat_ofNat (by omega), if_neg (by omega),
    if_neg (by omega), if_pos (by omega), number]
  rfl

/-- The first two of three bytes.  The range of the second one is narrower where the number would be
that of fewer bytes, or of no character. -/
theorem decodeFrom_three (large : 0x800 ≤ n) (small : n ≤ 0xFFFF) (valid : n < 0xD800 ∨ 0xDFFF < n) :
    decodeFrom none
        (UInt8.ofNat (n / 4096 % 16 + 0xE0) :: UInt8.ofNat (n / 64 % 64 + 0x80) :: rest) =
      decodeFrom (some { value := n / 64, missing := 0 }) rest := by
  have number : n / 4096 % 16 + 0xE0 - 0xE0 = n / 64 / 64 := by
    omega
  rw [decodeFrom, readByte, beginChar, toNat_ofNat (by omega), if_neg (by omega),
    if_neg (by omega), if_neg (by omega), if_pos (by omega), number]
  dsimp only [List.nil_append]
  refine decodeFrom_next rfl ?_ ?_
  · dsimp only
    split
    next =>
      simp only [UInt8.reduceToNat]
      omega
    next => exact Nat.le_add_left _ _
  · dsimp only
    split
    next =>
      simp only [UInt8.reduceToNat]
      omega
    next =>
      simp only [UInt8.reduceToNat]
      omega

/-- The first two of four bytes. -/
theorem decodeFrom_four (large : 0x10000 ≤ n) (small : n ≤ 0x10FFFF) :
    decodeFrom none
        (UInt8.ofNat (n / 262144 % 8 + 0xF0) :: UInt8.ofNat (n / 4096 % 64 + 0x80) :: rest) =
      decodeFrom (some { value := n / 4096, missing := 1 }) rest := by
  have number : n / 262144 % 8 + 0xF0 - 0xF0 = n / 4096 / 64 := by
    omega
  rw [decodeFrom, readByte, beginChar, toNat_ofNat (by omega), if_neg (by omega),
    if_neg (by omega), if_neg (by omega), if_neg (by omega), if_pos (by omega), number]
  dsimp only [List.nil_append]
  refine decodeFrom_next rfl ?_ ?_
  · dsimp only
    split
    next =>
      simp only [UInt8.reduceToNat]
      omega
    next => exact Nat.le_add_left _ _
  · dsimp only
    split
    next =>
      simp only [UInt8.reduceToNat]
      omega
    next =>
      simp only [UInt8.reduceToNat]
      omega

/-! ## Characters -/

/-- The bytes of a character are read as that character. -/
theorem decodeFrom_utf8EncodeChar (c : Char) (rest : List UInt8) :
    decodeFrom none (String.utf8EncodeChar c ++ rest) = c :: decodeFrom none rest := by
  have valid : c.toNat < 0xD800 ∨ 0xDFFF < c.toNat ∧ c.toNat < 0x110000 := c.valid
  have whole : Char.ofNat c.toNat = c := Char.ofNat_toNat c
  have number : c.val.toNat = c.toNat := rfl
  dsimp only [String.utf8EncodeChar]
  rw [number]
  generalize c.toNat = n at valid whole ⊢
  split
  next one => rw [List.cons_append, List.nil_append, decodeFrom_one one, whole]
  next one =>
    split
    next two =>
      simp only [List.cons_append, List.nil_append]
      rw [decodeFrom_two (Nat.lt_of_not_le one) two, decodeFrom_last, whole]
    next two =>
      split
      next three =>
        simp only [List.cons_append, List.nil_append]
        rw [decodeFrom_three (Nat.lt_of_not_le two) three (valid.imp_right And.left),
          decodeFrom_last, whole]
      next three =>
        have four : n / 4096 = n / 64 / 64 := by
          omega
        simp only [List.cons_append, List.nil_append]
        rw [decodeFrom_four (Nat.lt_of_not_le three) (by omega), four, decodeFrom_more,
          decodeFrom_last, whole]

theorem decodeFrom_flatMap (s : List Char) :
    decodeFrom none (s.flatMap String.utf8EncodeChar) = s := by
  induction s with
  | nil => rfl
  | cons c s ih => rw [List.flatMap_cons, decodeFrom_utf8EncodeChar, ih]

/-- **The bytes of a text are read as that text.** -/
theorem decode_flatMap (s : String) : decode (s.toList.flatMap String.utf8EncodeChar) = s := by
  rw [decode, decodeFrom_flatMap, String.ofList_toList]

end Text
end CodeGloss
