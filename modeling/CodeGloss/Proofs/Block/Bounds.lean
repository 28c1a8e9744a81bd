import CodeGloss.Block.Extent
import CodeGloss.Proofs.Text.Lines

/-!
# Blocks lie within their text

A block that starts on a line ends on that line or on a later one of the same text, whichever way it
is marked (`Block.endOf?_bounds`).
-/

namespace CodeGloss
namespace Block

/-- A walk over lines of which `held` belong to the block stays where it is or comes as far as the
lines that it has seen. -/
theorem Indent.walk_bounds (tabWidth base : Nat) {seen held : Nat} (le : held ≤ seen)
    (rest : List Line) :
    held ≤ Indent.walk tabWidth base seen held rest ∧
      Indent.walk tabWidth base seen held rest ≤ seen + rest.length := by
  induction rest generalizing seen held with
  | nil => exact ⟨Nat.le_refl _, le⟩
  | cons line rest ih =>
    rw [Indent.walk, List.length_cons]
    split
    · have le : held ≤ seen + 1 := Nat.le_succ_of_le le
      have later := ih le
      omega
    · split
      · have later := ih (Nat.le_refl (seen + 1))
        omega
      · omega

theorem Indent.extent_le (tabWidth : Nat) (header : Line) (rest : List Line) :
    Indent.extent tabWidth header rest ≤ rest.length := by
  have bounds := Indent.walk_bounds tabWidth (header.indent tabWidth) (Nat.le_refl 0) rest
  rw [Indent.extent]
  omega

theorem Brace.walk_le {counting : Counting} {tabWidth base seen extent : Nat} {s : Brace.Scan}
    {rest : List Line} (found : Brace.walk counting tabWidth base seen s rest = some extent) :
    extent ≤ seen + rest.length := by
  induction rest generalizing seen s with
  | nil =>
    rw [Brace.walk] at found
    split at found
    · cases found
      exact Nat.le_refl _
    · cases found
  | cons line rest ih =>
    rw [Brace.walk] at found
    rw [List.length_cons]
    split at found
    · have later := ih found
      omega
    · cases found
      omega
    · cases found

theorem Brace.extent?_le {counting : Counting} {tabWidth extent : Nat} {header : Line}
    {rest : List Line} (found : Brace.extent? counting tabWidth header rest = some extent) :
    extent ≤ rest.length := by
  rw [Brace.extent?] at found
  split at found
  · have bound := Brace.walk_le found
    omega
  · cases found
    exact Nat.zero_le _
  · cases found

theorem extent?_le {options : Options} {style : Style} {header : Line} {rest : List Line}
    {extent : Nat} (found : extent? options style header rest = some extent) :
    extent ≤ rest.length := by
  cases style with
  | indent =>
    cases found
    exact Indent.extent_le _ _ _
  | brace => exact Brace.extent?_le found

/-- **Blocks lie within their text.** -/
theorem endOf?_bounds {options : Options} {style : Style} {lines : List Line} {start last : Nat}
    (found : endOf? options style lines start = some last) :
    start ≤ last ∧ last < lines.length := by
  unfold endOf? at found
  split at found
  next => cases found
  next header rest here =>
    obtain ⟨extent, within, rfl⟩ := Option.map_eq_some_iff.mp found
    have bound := extent?_le within
    have length := (Line.of_drop_eq_cons here).2.2
    omega

end Block
end CodeGloss
