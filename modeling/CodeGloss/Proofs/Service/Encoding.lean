import CodeGloss.Service.Form
import Mathlib.Data.List.Basic

/-!
# What percent signs stand for

A percent sign stands for a byte if two hexadecimal digits follow it, and else for itself.  So reading a
text back never gives more bytes than the text has itself, and gives exactly its own bytes if and only
if there is no such escape in it (`Form.decodeBytes_of_hasEscape_eq_false`,
`Form.length_decodeBytes_lt`).

Writing characters as escapes changes nothing in what is read back, as long as percent signs and digits
are left as they are (`Form.decodeBytes_percentEncode`).  In particular an escape that is in a text
already is not protected.  Forms are different: there percent signs are written as escapes themselves,
and every value is read back (`Form.decode?_encode`).
-/

namespace CodeGloss
namespace Service
namespace Form

variable {c : Char} {s t : List Char}

/-! ## Bytes of a text -/

theorem bytes_append (s t : List Char) : bytes (s ++ t) = bytes s ++ bytes t :=
  List.flatMap_append

theorem bytes_cons (c : Char) (s : List Char) :
    bytes (c :: s) = String.utf8EncodeChar c ++ bytes s :=
  List.flatMap_cons

/-- Every character has a byte. -/
theorem length_utf8EncodeChar_pos (c : Char) : 0 < (String.utf8EncodeChar c).length := by
  rw [String.length_utf8EncodeChar]
  exact c.utf8Size_pos

/-- Texts with the same bytes are the same. -/
theorem bytes_inj (same : bytes s = bytes t) : s = t := by
  have encoded : s.utf8Encode = t.utf8Encode := congrArg List.toByteArray same
  rw [← String.toByteArray_ofList, ← String.toByteArray_ofList, String.toByteArray_inj] at encoded
  exact String.ofList_inj.mp encoded

/-- Some bytes are a text if and only if they are the bytes of that text. -/
theorem fromUTF8?_toByteArray_eq_some_iff {read : List UInt8} {text : String} :
    String.fromUTF8? read.toByteArray = some text ↔ read = bytes text.toList := by
  rw [String.fromUTF8?]
  constructor
  · intro found
    split at found
    next valid =>
      cases found
      have same : (bytes (String.fromUTF8 read.toByteArray valid).toList).toByteArray =
          read.toByteArray :=
        String.utf8Encode_toList
      exact (List.toByteArray_inj.mp same).symm
    next => cases found
  · rintro rfl
    have same : (bytes text.toList).toByteArray = text.toByteArray := String.utf8Encode_toList
    rw [same, dif_pos text.isValidUTF8]
    rfl

theorem percentDecode?_eq_some_iff {text : String} :
    percentDecode? s = some text ↔ decodeBytes s = bytes text.toList :=
  fromUTF8?_toByteArray_eq_some_iff

/-! ## Escapes -/

/-- Whether a text starts with two hexadecimal digits. -/
def startsWithDigits : List Char → Bool
  | a :: b :: _ => (hexValue? a).isSome && (hexValue? b).isSome
  | _ => false

/-- Whether there is a percent sign in a text that two hexadecimal digits follow. -/
def hasEscape : List Char → Bool
  | [] => false
  | c :: s => (c == '%' && startsWithDigits s) || hasEscape s

/-- A character that is in no escape stands for itself, and so does a percent sign without digits. -/
theorem decodeBytes_cons (plain : c ≠ '%' ∨ startsWithDigits s = false) :
    decodeBytes (c :: s) = String.utf8EncodeChar c ++ decodeBytes s := by
  rw [decodeBytes.eq_def]
  split
  next heads => cases heads
  next a b rest heads =>
    cases heads
    have other := plain.resolve_left (not_not_intro rfl)
    rw [startsWithDigits] at other
    split
    next x y value_a value_b =>
      rw [value_a, value_b] at other
      cases other
    next => rfl
  next heads =>
    cases heads
    rfl

theorem decodeBytes_escape {a b : Char} {x y : Nat} (value_a : hexValue? a = some x)
    (value_b : hexValue? b = some y) (s : List Char) :
    decodeBytes ('%' :: a :: b :: s) = UInt8.ofNat (x * 16 + y) :: decodeBytes s := by
  rw [decodeBytes, value_a, value_b]

/-- A text is empty or begins with an escape or with a character that stands for itself, and then it
goes on in the same way. -/
theorem escape_induction {motive : List Char → Prop} (nil : motive [])
    (escape : ∀ a b s x y, hexValue? a = some x → hexValue? b = some y → motive s →
      motive ('%' :: a :: b :: s))
    (plain : ∀ c s, c ≠ '%' ∨ startsWithDigits s = false → motive s → motive (c :: s)) :
    ∀ s, motive s := by
  intro s
  induction s using decodeBytes.induct with
  | case1 => exact nil
  | case2 a b rest x y value_b value_a ih => exact escape a b rest x y value_a value_b ih
  | case3 a b rest none_ ih =>
    refine plain _ _ (.inr ?_) ih
    rw [startsWithDigits, Bool.eq_false_iff, Ne, Bool.and_eq_true, Option.isSome_iff_exists,
      Option.isSome_iff_exists]
    rintro ⟨⟨x, value_a⟩, y, value_b⟩
    exact none_ x y value_a value_b
  | case4 c rest none_ ih =>
    refine plain _ _ ?_ ih
    by_cases percent : c = '%'
    · match rest with
      | [] => exact .inr rfl
      | [_] => exact .inr rfl
      | a :: b :: rest => exact absurd rfl (none_ a b rest percent)
    · exact .inl percent

/-! ## Reading a text in parts -/

/-- A character that is no part of any escape. -/
def IsApart (c : Char) : Prop :=
  c ≠ '%' ∧ hexValue? c = none

theorem startsWithDigits_append (apart : IsApart c) (s t : List Char) :
    startsWithDigits (s ++ c :: t) = startsWithDigits s := by
  have none_ : (hexValue? c).isSome = false := by rw [apart.2, Option.isSome_none]
  match s with
  | [] =>
    cases t with
    | nil => rfl
    | cons d t =>
      show ((hexValue? c).isSome && (hexValue? d).isSome) = false
      rw [none_, Bool.false_and]
  | [a] =>
    show ((hexValue? a).isSome && (hexValue? c).isSome) = false
    rw [none_, Bool.and_false]
  | a :: b :: s => rfl

/-- What is in front of a character that is in no escape is read by itself. -/
theorem decodeBytes_append (apart : ∀ c ∈ t.head?, IsApart c) (s : List Char) :
    decodeBytes (s ++ t) = decodeBytes s ++ decodeBytes t := by
  cases t with
  | nil => rw [List.append_nil, decodeBytes, List.append_nil]
  | cons c t =>
    replace apart := apart c rfl
    induction s using escape_induction with
    | nil => rw [List.nil_append, decodeBytes, List.nil_append]
    | escape a b s x y value_a value_b ih =>
      simp only [List.cons_append, decodeBytes_escape value_a value_b, ih]
    | plain d s plain ih =>
      have plain' := plain.imp_right (startsWithDigits_append apart s t).trans
      rw [List.cons_append, decodeBytes_cons plain', decodeBytes_cons plain, ih, List.append_assoc]

theorem startsWithDigits_append_right {s : List Char} (starts : startsWithDigits s = true)
    (t : List Char) : startsWithDigits (s ++ t) = true := by
  match s with
  | [] => cases starts
  | [a] => cases starts
  | a :: b :: s => exact starts

/-- An escape in a part of a text is one in the text. -/
theorem hasEscape_append {s t : List Char}
    (part : hasEscape s = true ∨ hasEscape t = true) :
    hasEscape (s ++ t) = true := by
  induction s with
  | nil => exact part.resolve_left Bool.false_ne_true
  | cons d s ih =>
    rw [hasEscape, Bool.or_eq_true, Bool.and_eq_true, or_assoc] at part
    rw [List.cons_append, hasEscape, Bool.or_eq_true, Bool.and_eq_true]
    rcases part with here | later
    · exact .inl ⟨here.1, startsWithDigits_append_right here.2 t⟩
    · exact .inr (ih later)

/-! ## How much is read back -/

/-- A text without escapes stands for itself. -/
theorem decodeBytes_of_hasEscape_eq_false (none_ : hasEscape s = false) :
    decodeBytes s = bytes s := by
  induction s with
  | nil => rfl
  | cons c s ih =>
    rw [hasEscape, Bool.or_eq_false_iff, Bool.and_eq_false_iff, beq_eq_false_iff_ne] at none_
    rw [decodeBytes_cons none_.1, ih none_.2, bytes_cons]

theorem length_decodeBytes_le (s : List Char) : (decodeBytes s).length ≤ (bytes s).length := by
  induction s using escape_induction with
  | nil => exact Nat.le_refl _
  | escape a b s x y value_a value_b ih =>
    have percent := length_utf8EncodeChar_pos '%'
    rw [decodeBytes_escape value_a value_b]
    simp only [bytes_cons, List.length_append, List.length_cons]
    omega
  | plain c s plain ih =>
    rw [decodeBytes_cons plain, bytes_cons, List.length_append, List.length_append]
    exact Nat.add_le_add_left ih _

/-- An escape stands for fewer bytes than it has. -/
theorem length_decodeBytes_lt (escape : hasEscape s = true) :
    (decodeBytes s).length < (bytes s).length := by
  induction s using escape_induction with
  | nil => cases escape
  | escape a b s x y value_a value_b =>
    have rest := length_decodeBytes_le s
    have percent := length_utf8EncodeChar_pos '%'
    have first := length_utf8EncodeChar_pos a
    rw [decodeBytes_escape value_a value_b]
    simp only [bytes_cons, List.length_append, List.length_cons]
    omega
  | plain c s plain ih =>
    rw [hasEscape, Bool.or_eq_true, Bool.and_eq_true, beq_iff_eq] at escape
    have inside := escape.resolve_left fun starts => by
      rcases plain with other | none_
      · exact other starts.1
      · rw [starts.2] at none_
        cases none_
    rw [decodeBytes_cons plain, bytes_cons, List.length_append, List.length_append]
    exact Nat.add_lt_add_left (ih inside) _

/-- Something is read of every text but the empty one. -/
theorem length_decodeBytes_pos (some_ : s ≠ []) : 0 < (decodeBytes s).length := by
  cases s using escape_induction with
  | nil => exact absurd rfl some_
  | escape a b s x y value_a value_b =>
    rw [decodeBytes_escape value_a value_b]
    exact Nat.succ_pos _
  | plain c s plain =>
    rw [decodeBytes_cons plain, List.length_append]
    exact Nat.add_pos_left (length_utf8EncodeChar_pos c) _

/-! ## Writing escapes -/

theorem hexValue?_hexDigit {n : Nat} (lt : n < 16) : hexValue? (hexDigit n) = some n := by
  have each : ∀ n < 16, hexValue? (hexDigit n) = some n := by decide
  exact each n lt

/-- A byte that was written as an escape is read back. -/
theorem decodeBytes_percent (b : UInt8) (s : List Char) :
    decodeBytes (percent b ++ s) = b :: decodeBytes s := by
  have lt : b.toNat < 256 := b.toNat_lt
  have high := hexValue?_hexDigit (n := b.toNat / 16) (by omega)
  have low := hexValue?_hexDigit (n := b.toNat % 16) (by omega)
  show decodeBytes ('%' :: hexDigit (b.toNat / 16) :: hexDigit (b.toNat % 16) :: s) = _
  rw [decodeBytes_escape high low, Nat.div_add_mod', UInt8.ofNat_toNat]

theorem decodeBytes_flatMap_percent (written : List UInt8) (s : List Char) :
    decodeBytes (written.flatMap percent ++ s) = written ++ decodeBytes s := by
  induction written with
  | nil => rfl
  | cons b written ih =>
    rw [List.flatMap_cons, List.append_assoc, decodeBytes_percent, ih, List.cons_append]

section PercentEncode

variable {plain : Char → Bool}

theorem percentEncode_cons (plain : Char → Bool) (c : Char) (s : List Char) :
    percentEncode plain (c :: s) =
      (if plain c then [c] else (String.utf8EncodeChar c).flatMap percent) ++
        percentEncode plain s :=
  List.flatMap_cons

theorem percentEncode_append (plain : Char → Bool) (s t : List Char) :
    percentEncode plain (s ++ t) = percentEncode plain s ++ percentEncode plain t :=
  List.flatMap_append

/-- Whether percent signs and digits stand for themselves. -/
def KeepsEscapes (plain : Char → Bool) : Prop :=
  plain '%' = true ∧ ∀ c, (hexValue? c).isSome → plain c = true

/-- What is written for a digit is the digit, and what is written for another character does not start
with a digit. -/
theorem percentEncode_cases (keeps : KeepsEscapes plain) (c : Char) (s : List Char) :
    percentEncode plain (c :: s) = c :: percentEncode plain s ∨
      (hexValue? c).isSome = false ∧ ∃ t, percentEncode plain (c :: s) = '%' :: t := by
  rw [percentEncode_cons]
  split
  · exact .inl rfl
  next escaped =>
    obtain ⟨b, others, eq⟩ := List.exists_cons_of_length_pos (length_utf8EncodeChar_pos c)
    refine .inr ⟨Bool.eq_false_iff.mpr fun digit => escaped (keeps.2 c digit), ?_⟩
    rw [eq]
    exact ⟨_, rfl⟩

theorem startsWithDigits_percentEncode (keeps : KeepsEscapes plain) (s : List Char) :
    startsWithDigits (percentEncode plain s) = startsWithDigits s := by
  have percent_ : ∀ t, startsWithDigits ('%' :: t) = false := by
    intro t
    cases t <;> rfl
  cases s with
  | nil => rfl
  | cons a s =>
    rcases percentEncode_cases keeps a s with eq | ⟨other, t, eq⟩
    · rw [eq]
      cases s with
      | nil => rfl
      | cons b s =>
        rcases percentEncode_cases keeps b s with eq | ⟨other, t, eq⟩
        · rw [eq]
          rfl
        · rw [eq, startsWithDigits, startsWithDigits, other]
          rfl
    · rw [eq, percent_]
      cases s with
      | nil => rfl
      | cons b s => rw [startsWithDigits, other, Bool.false_and]

/-- What is written with escapes is read back as it would have been without them. -/
theorem decodeBytes_percentEncode (keeps : KeepsEscapes plain) (s : List Char) :
    decodeBytes (percentEncode plain s) = decodeBytes s := by
  induction s using escape_induction with
  | nil => rfl
  | escape a b s x y value_a value_b ih =>
    have digit_a := keeps.2 a (by rw [value_a, Option.isSome_some])
    have digit_b := keeps.2 b (by rw [value_b, Option.isSome_some])
    rw [percentEncode_cons, percentEncode_cons, percentEncode_cons, if_pos keeps.1, if_pos digit_a,
      if_pos digit_b]
    simp only [List.singleton_append]
    rw [decodeBytes_escape value_a value_b, decodeBytes_escape value_a value_b, ih]
  | plain c s plain_ ih =>
    rw [percentEncode_cons, decodeBytes_cons plain_]
    split
    · have plain' := plain_.imp_right (startsWithDigits_percentEncode keeps s).trans
      rw [List.singleton_append, decodeBytes_cons plain', ih]
    · rw [decodeBytes_flatMap_percent, ih]

end PercentEncode

/-! ## Forms -/

theorem mem_encode {text : String} (mem : c ∈ encode text) :
    c = '+' ∨ c = '%' ∨ isFormPlain c = true := by
  obtain ⟨d, -, mem⟩ := List.mem_flatMap.mp mem
  split at mem
  · exact .inl (List.mem_singleton.mp mem)
  · split at mem
    next plain =>
      rw [List.mem_singleton.mp mem]
      exact .inr (.inr plain)
    next =>
      obtain ⟨b, -, mem⟩ := List.mem_flatMap.mp mem
      have digits : ∀ n < 16, isFormPlain (hexDigit n) = true := by decide
      have lt : b.toNat < 256 := b.toNat_lt
      rw [percent] at mem
      simp only [List.mem_cons, List.not_mem_nil, or_false] at mem
      rcases mem with rfl | rfl | rfl
      · exact .inr (.inl rfl)
      · exact .inr (.inr (digits _ (by omega)))
      · exact .inr (.inr (digits _ (by omega)))

/-- A plus sign in a form is a blank. -/
def unplus (c : Char) : Char :=
  if c == '+' then ' ' else c

/-- There is no plus sign in an escape. -/
theorem map_unplus_flatMap_percent (written : List UInt8) :
    (written.flatMap percent).map unplus = written.flatMap percent := by
  rw [List.map_flatMap]
  refine congrArg (List.flatMap · written) (funext fun b => ?_)
  have digits : ∀ n < 16, unplus (hexDigit n) = hexDigit n := by decide
  have lt : b.toNat < 256 := b.toNat_lt
  have high := digits (b.toNat / 16) (by omega)
  have low := digits (b.toNat % 16) (by omega)
  rw [percent, List.map_cons, List.map_cons, List.map_singleton, high, low]
  rfl

theorem decodeBytes_encode (text : String) :
    decodeBytes ((encode text).map unplus) = bytes text.toList := by
  unfold encode
  induction text.toList with
  | nil => rfl
  | cons c s ih =>
    rw [List.flatMap_cons, List.map_append, bytes_cons]
    split
    next blank =>
      rw [beq_iff_eq] at blank
      subst blank
      show decodeBytes (' ' :: List.map unplus _) = _
      rw [decodeBytes_cons (.inl (by decide)), ih]
    next =>
      split
      next plain =>
        have same : unplus c = c := by
          refine if_neg fun plus => ?_
          rw [beq_iff_eq.mp plus] at plain
          cases plain
        have other : c ≠ '%' := by
          rintro rfl
          cases plain
        rw [List.map_singleton, same, List.singleton_append, decodeBytes_cons (.inl other), ih]
      next => rw [map_unplus_flatMap_percent, decodeBytes_flatMap_percent, ih]

/-- **Every value is read back from a form.** -/
theorem decode?_encode (text : String) : decode? (encode text) = some text :=
  percentDecode?_eq_some_iff.mpr (decodeBytes_encode text)

end Form
end Service
end CodeGloss
