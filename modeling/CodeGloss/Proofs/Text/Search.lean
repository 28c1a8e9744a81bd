import CodeGloss.Proofs.Block.Positions
import Mathlib.Data.List.Infix

/-!
# What a search finds

A text that stands in another one is found there (`exists_before?`), and what is found stands there
(`append_of_before?`).  The bytes that a search names can be cut out, since characters start at both
ends of them, and what is cut out is the text that was searched for (`slice?_of_byteRange?`).
What can be cut out stands there, too: the text is what is before it, the piece, and what is behind
it, and their sizes are the ends of the range (`append_of_slice?`).
-/

namespace CodeGloss
namespace Text

open Block.Positional (fromByte? fromByte?_byteLength minus?)

/-- The piece of a text from one byte to another one, if characters start there, in that order, or
the text ends there. -/
def slice? (range : Nat × Nat) (s : List Char) : Option (List Char) :=
  (fromByte? range.1 s).bind fun rest =>
    (fromByte? range.2 s).bind fun after =>
      if range.1 ≤ range.2 then some (rest.take (rest.length - after.length)) else none

/-- A piece of a text can be cut out. -/
theorem slice?_append (front piece back : List Char) :
    slice? (byteLength front, byteLength front + byteLength piece) (front ++ piece ++ back) =
      some piece := by
  have first : fromByte? (byteLength front) (front ++ piece ++ back) = some (piece ++ back) := by
    rw [List.append_assoc, fromByte?_byteLength]
  have last : fromByte? (byteLength front + byteLength piece) (front ++ piece ++ back) =
      some back := by
    rw [← byteLength_append, fromByte?_byteLength]
  simp only [slice?, first, last, Option.bind_some, Nat.le_add_right, if_true,
    List.length_append, Nat.add_sub_cancel, List.take_left]

/-- A text without bytes is empty. -/
theorem eq_nil_of_byteLength {s : List Char} (none_ : byteLength s = 0) : s = [] := by
  cases s with
  | nil => rfl
  | cons c s =>
    have size := c.utf8Size_pos
    rw [byteLength] at none_
    omega

/-- What is left of a text from a byte on is its end, and what is before it has that many bytes. -/
theorem append_of_fromByte? {n : Nat} {s rest : List Char} (left : fromByte? n s = some rest) :
    ∃ front, s = front ++ rest ∧ byteLength front = n := by
  induction s generalizing n with
  | nil =>
    cases n with
    | zero =>
      cases left
      exact ⟨[], rfl, rfl⟩
    | succ n => cases left
  | cons c s ih =>
    cases n with
    | zero =>
      cases left
      exact ⟨[], rfl, rfl⟩
    | succ n =>
      rw [fromByte?] at left
      obtain ⟨m, difference, left⟩ := Option.bind_eq_some_iff.mp left
      have le : c.utf8Size ≤ n + 1 ∧ n + 1 - c.utf8Size = m := by
        unfold minus? at difference
        split at difference
        next le => exact ⟨le, Option.some.inj difference⟩
        next => cases difference
      obtain ⟨front, rfl, length⟩ := ih left
      refine ⟨c :: front, rfl, ?_⟩
      rw [byteLength]
      omega

/-- **What can be cut out of a text stands between two parts of it.** -/
theorem append_of_slice? {range : Nat × Nat} {s piece : List Char}
    (cut : slice? range s = some piece) :
    ∃ front back, s = front ++ piece ++ back ∧ byteLength front = range.1 ∧
      byteLength front + byteLength piece = range.2 := by
  simp only [slice?, Option.bind_eq_some_iff, Option.ite_none_right_eq_some] at cut
  obtain ⟨rest, first, after, last, ordered, taken⟩ := cut
  obtain ⟨front, rfl, starts⟩ := append_of_fromByte? first
  obtain ⟨front', whole, ends⟩ := append_of_fromByte? last
  -- The text after the first byte holds the text after the last one, or there is nothing between.
  have middle : ∃ between, rest = between ++ after ∧
      byteLength front + byteLength between = range.2 := by
    rcases List.append_eq_append_iff.mp whole with ⟨between, rfl, eq⟩ | ⟨between, rfl, eq⟩
    · refine ⟨between, eq, ?_⟩
      rw [← byteLength_append, ends]
    · have none_ : between = [] := by
        apply eq_nil_of_byteLength
        rw [byteLength_append] at starts
        omega
      subst none_
      refine ⟨[], eq.symm, ?_⟩
      rw [List.append_nil] at starts ⊢
      rw [byteLength_nil]
      omega
  obtain ⟨between, rfl, length⟩ := middle
  rw [List.length_append, Nat.add_sub_cancel, List.take_left] at taken
  obtain rfl := Option.some.inj taken
  exact ⟨front, after, (List.append_assoc _ _ _).symm, starts, length⟩

variable {needle s front : List Char}

/-- What is found stands there. -/
theorem append_of_before? (found : before? needle s = some front) :
    ∃ back, s = front ++ needle ++ back := by
  induction s generalizing front with
  | nil =>
    rw [before?] at found
    split at found
    next empty =>
      cases found
      exact ⟨[], by simpa using (List.isEmpty_iff.mp empty).symm⟩
    next => cases found
  | cons c rest ih =>
    rw [before?] at found
    split at found
    next starts =>
      cases found
      obtain ⟨back, eq⟩ := List.isPrefixOf_iff_prefix.mp starts
      exact ⟨back, eq.symm⟩
    next =>
      obtain ⟨front', later, rfl⟩ := Option.map_eq_some_iff.mp found
      obtain ⟨back, rfl⟩ := ih later
      exact ⟨back, rfl⟩

/-- What stands in a text is found there. -/
theorem exists_before? (stands : needle <:+: s) : ∃ front, before? needle s = some front := by
  induction s with
  | nil =>
    obtain rfl := List.infix_nil.mp stands
    exact ⟨[], rfl⟩
  | cons c rest ih =>
    rw [before?]
    split
    next => exact ⟨[], rfl⟩
    next not_here =>
      rcases List.infix_cons_iff.mp stands with here | later
      · exact absurd (List.isPrefixOf_iff_prefix.mpr here) not_here
      · obtain ⟨front, found⟩ := ih later
        exact ⟨c :: front, by rw [found, Option.map_some]⟩

theorem exists_byteRange? (stands : needle <:+: s) : ∃ range, byteRange? needle s = some range := by
  obtain ⟨front, found⟩ := exists_before? stands
  exact ⟨_, by rw [byteRange?, found, Option.map_some]⟩

/-- **The bytes that a search names are those of the text that was searched for.** -/
theorem slice?_of_byteRange? {range : Nat × Nat} (found : byteRange? needle s = some range) :
    slice? range s = some needle := by
  obtain ⟨front, before, rfl⟩ := Option.map_eq_some_iff.mp found
  obtain ⟨back, rfl⟩ := append_of_before? before
  exact slice?_append front needle back

example : slice? (1, 3) "aéa".toList = some ['é'] ∧ slice? (2, 4) "aéa".toList = none := by
  decide

end Text
end CodeGloss
