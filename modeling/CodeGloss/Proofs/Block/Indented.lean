import CodeGloss.Proofs.Block.Bounds
import CodeGloss.Proofs.Block.Positions

/-!
# Where indented blocks end

The search for the end of an indented block goes over the lines once, and counts a line into the
block for sure only when a line that is deep enough comes along.  Here the end is described by
positions, without going over anything.

A line *shuts* the block of a header if something is on it and it is not indented deeper
(`Indent.Shuts`).  The block stops at the first line that shuts it, or where the lines stop
(`Indent.StopsAt`), and its last line is the last one before that on which something is, be it the
header (`Indent.LastSolid`).  While the walk goes on this is so for the lines that it has seen and
the line that it holds, and so it is in the end (`Indent.exists_stop_of_walk`).

The width of a tab may be any number.  Where it is zero tabs do not count.
-/

namespace CodeGloss
namespace Block
namespace Indent

/-- Whether a line ends the block of a header that is indented by `base` columns. -/
def Shuts (tabWidth base : Nat) (line : Line) : Prop :=
  Text.isAllBlank line = false ∧ line.indent tabWidth ≤ base

/-- Whether something is on the line at a position. -/
def SolidAt (lines : List Line) (i : Nat) : Prop :=
  ∃ line, lines[i]? = some line ∧ Text.isAllBlank line = false

/-- Whether no line after `start` and before `stop` ends the block. -/
def OpenUpTo (tabWidth base : Nat) (lines : List Line) (start stop : Nat) : Prop :=
  ∀ i line, start < i → i < stop → lines[i]? = some line → ¬Shuts tabWidth base line

/-- Whether the first line after `start` that ends the block is the one at `stop`, or there is none
and `stop` is the number of lines. -/
structure StopsAt (tabWidth base : Nat) (lines : List Line) (start stop : Nat) : Prop where
  after : start < stop
  within : stop ≤ lines.length
  shuts : ∀ line, lines[stop]? = some line → Shuts tabWidth base line
  first : OpenUpTo tabWidth base lines start stop

/-- Whether `last` is the last position after `start` and before `stop` with something on its line,
or there is none and `last` is `start`. -/
structure LastSolid (lines : List Line) (start stop last : Nat) : Prop where
  from_start : start ≤ last
  solid : last ≠ start → last < stop ∧ SolidAt lines last
  blank : ∀ i, last < i → i < stop → ¬SolidAt lines i

section

variable {tabWidth base : Nat} {lines : List Line} {start stop last : Nat} {line : Line}

/-! ## One line more -/

theorem OpenUpTo.succ (open_ : OpenUpTo tabWidth base lines start stop)
    (here : lines[stop]? = some line) (stays : ¬Shuts tabWidth base line) :
    OpenUpTo tabWidth base lines start (stop + 1) := by
  intro i other after before there
  rcases Nat.lt_succ_iff_lt_or_eq.mp before with earlier | rfl
  · exact open_ i other after earlier there
  · rw [here, Option.some.injEq] at there
    exact there ▸ stays

/-- A blank line does not change which line is the last one, -/
theorem LastSolid.succ_of_blank (held : LastSolid lines start stop last)
    (here : lines[stop]? = some line) (blank : Text.isAllBlank line = true) :
    LastSolid lines start (stop + 1) last where
  from_start := held.from_start
  solid other := (held.solid other).imp_left Nat.lt_succ_of_lt
  blank i after before := by
    rcases Nat.lt_succ_iff_lt_or_eq.mp before with earlier | rfl
    · exact held.blank i after earlier
    · rintro ⟨_, there, solid⟩
      rw [here, Option.some.injEq] at there
      rw [← there, blank] at solid
      cases solid

/-- and any other line is the last one itself. -/
theorem lastSolid_succ (after : start < stop) (here : lines[stop]? = some line)
    (solid : Text.isAllBlank line = false) : LastSolid lines start (stop + 1) stop where
  from_start := Nat.le_of_lt after
  solid _ := ⟨Nat.lt_succ_self stop, line, here, solid⟩
  blank i after before := by omega

/-! ## The walk -/

/-- A walk that has come to the position `start + 1 + seen`, and holds the line that is the last one
up to there, comes to the line that is the last one before the block stops. -/
theorem exists_stop_of_walk {rest : List Line} (seen held : Nat)
    (here : lines.drop (start + 1 + seen) = rest) (within : start + 1 + seen ≤ lines.length)
    (open_ : OpenUpTo tabWidth base lines start (start + 1 + seen))
    (holds : LastSolid lines start (start + 1 + seen) (start + held)) :
    ∃ stop, StopsAt tabWidth base lines start stop ∧
      LastSolid lines start stop (start + walk tabWidth base seen held rest) := by
  induction rest generalizing seen held with
  | nil =>
    refine ⟨start + 1 + seen, ⟨by omega, within, fun line there => ?_, open_⟩, holds⟩
    have lt := (List.getElem?_eq_some_iff.mp there).1
    have le := List.drop_eq_nil_iff.mp here
    omega
  | cons line rest ih =>
    obtain ⟨there, behind, length⟩ := Line.of_drop_eq_cons here
    have next : start + 1 + (seen + 1) = start + 1 + seen + 1 := rfl
    rw [walk]
    split
    next blank =>
      refine ih _ _ behind (by omega) (open_.succ there fun shuts => ?_)
        (holds.succ_of_blank there blank)
      exact absurd (blank.symm.trans shuts.1) (by simp)
    next solid =>
      rw [Bool.not_eq_true] at solid
      split
      next deeper =>
        refine ih _ _ behind (by omega) (open_.succ there fun shuts => ?_) ?_
        · exact absurd shuts.2 (Nat.not_le.mpr deeper)
        · rw [next, show start + (seen + 1) = start + 1 + seen by omega]
          exact lastSolid_succ (by omega) there solid
      next shallow =>
        refine ⟨start + 1 + seen, ⟨by omega, within, fun other at_stop => ?_, open_⟩, holds⟩
        rw [there, Option.some.injEq] at at_stop
        exact at_stop ▸ ⟨solid, Nat.not_lt.mp shallow⟩

/-! ## The block -/

theorem LastSolid.lt (held : LastSolid lines start stop last) (after : start < stop) :
    last < stop := by
  by_cases same : last = start
  · exact same ▸ after
  · exact (held.solid same).1

/-- What comes before the block stops is deeper, if something is on it. -/
theorem OpenUpTo.deeper (open_ : OpenUpTo tabWidth base lines start stop) {i : Nat}
    (after : start < i) (before : i < stop) (here : lines[i]? = some line)
    (solid : Text.isAllBlank line = false) : base < line.indent tabWidth :=
  Nat.lt_of_not_le fun shallow => open_ i line after before here ⟨solid, shallow⟩

/-- Behind the last line there is nothing before the line that shuts the block. -/
theorem StopsAt.exists_between (stops : StopsAt tabWidth base lines start stop)
    (held : LastSolid lines start stop last) {i : Nat} (behind : last < i)
    (here : lines[i]? = some line) (solid : Text.isAllBlank line = false)
    (deeper : base < line.indent tabWidth) :
    ∃ j other, last < j ∧ j < i ∧ lines[j]? = some other ∧ Shuts tabWidth base other := by
  have inside := (List.getElem?_eq_some_iff.mp here).1
  have reached : stop ≤ i := Nat.le_of_not_lt fun before => held.blank i behind before ⟨_, here, solid⟩
  have passed : stop ≠ i := by
    rintro rfl
    exact Nat.lt_irrefl _ (Nat.lt_of_lt_of_le deeper (stops.shuts line here).2)
  have at_stop := List.getElem?_eq_getElem (Nat.lt_of_le_of_lt reached inside)
  exact ⟨stop, _, held.lt stops.after, Nat.lt_of_le_of_ne reached passed, at_stop,
    stops.shuts _ at_stop⟩

end
end Indent

/-- **Where an indented block ends.**  Whatever the lines and the width of a tab are, the block of a
line has an end, and the search by positions finds it: it is the last line with something on it
before the block stops, and the header if there is none.  So it is one of the lines and not above the
header; whatever is in the block is deeper than the header; something is on the last line; and a line
behind it that is deep enough comes after one that shuts the block. -/
theorem indented_block_is_exact (options : Options) {lines : List Line} {start : Nat}
    (inside : start < lines.length) :
    let base := lines[start].indent options.tabWidth
    ∃ stop last, Indent.StopsAt options.tabWidth base lines start stop ∧
      Indent.LastSolid lines start stop last ∧
      endOf? options .indent lines start = some last ∧
      Positional.blockEnd? options .indent lines start = some (some last) ∧
      start ≤ last ∧ last < lines.length ∧
      (∀ i line, start < i → i ≤ last → lines[i]? = some line → Text.isAllBlank line = false →
        base < line.indent options.tabWidth) ∧
      (last ≠ start → Indent.SolidAt lines last) ∧
      ∀ i line, last < i → lines[i]? = some line → Text.isAllBlank line = false →
        base < line.indent options.tabWidth →
        ∃ j other, last < j ∧ j < i ∧ lines[j]? = some other ∧
          Indent.Shuts options.tabWidth base other := by
  intro base
  have here := List.drop_eq_getElem_cons inside
  obtain ⟨stop, stops, held⟩ : ∃ stop, Indent.StopsAt options.tabWidth base lines start stop ∧
      Indent.LastSolid lines start stop
        (start + Indent.extent options.tabWidth lines[start] (lines.drop (start + 1))) := by
    -- The walk begins right behind the header, which is the line that it holds.
    refine Indent.exists_stop_of_walk 0 0 rfl inside ?_ ⟨?_, ?_, ?_⟩
    · intro i line after before
      omega
    · exact Nat.le_refl _
    · exact fun other => absurd rfl other
    · intro i after before
      omega
  have found : endOf? options .indent lines start =
      some (start + Indent.extent options.tabWidth lines[start] (lines.drop (start + 1))) := by
    simp only [endOf?, here, extent?, Option.map_some]
  obtain ⟨le, lt⟩ := endOf?_bounds found
  refine ⟨stop, _, stops, held, found, ?_, le, lt, ?_, fun other => (held.solid other).2, ?_⟩
  · rw [Positional.blockEnd?_eq options .indent inside, found]
  · intro i line after upto there solid
    exact stops.first.deeper after (Nat.lt_of_le_of_lt upto (held.lt stops.after)) there solid
  · exact fun i line behind there solid deeper =>
      stops.exists_between held behind there solid deeper

/-- Tabs do not count here, an ideographic space does, and the blank lines in between belong to the
block. -/
theorem indented_block_ends_without_tabs :
    let options : Options := { tabWidth := 0 }
    let lines := ["\tdef f():", "  \tx", "\u3000\t", "\t\u3000y", "", "\tz", "   w"].map String.toList
    0 < lines.length ∧ endOf? options .indent lines 0 = some 3 ∧
      ∃ stop, Indent.StopsAt 0 0 lines 0 stop ∧ Indent.LastSolid lines 0 stop 3 := by
  intro options lines
  have inside : 0 < lines.length := by decide
  have ends : endOf? options .indent lines 0 = some 3 := by decide
  obtain ⟨stop, last, stops, held, found, -⟩ := indented_block_is_exact options inside
  obtain rfl := Option.some.inj (ends.symm.trans found)
  exact ⟨inside, ends, stop, stops, held⟩

end Block
end CodeGloss
