import CodeGloss.Proofs.Block.Appended
import CodeGloss.Proofs.Block.Bounds
import CodeGloss.Proofs.Text.Gap

/-!
# Blocks and gaps

An empty line among the lines of a block makes the block one line longer, and an empty line below
it does nothing to it (`extent?_gap`).  It does not matter whether the line comes before the body
opens, inside a parameter list, a comment or a template literal, or behind the last line that is
indented deeper than the header.

For blocks by braces the reason is that a scan is *at rest* between two lines: the end of a line was
read, and to read it again changes nothing (`Scan.AtRest`).  So the empty line leaves the scan as it
is on either way that it may take, whether it is passed over or read (`Scan.AtRest.next_nil`).
-/

namespace CodeGloss
namespace Block

open Line (renumbered renumbered_of_le renumbered_of_lt)

/-! ## Blocks by indentation -/

namespace Indent

variable (tabWidth base : Nat)

/-- A walk that begins one line later ends one line later. -/
theorem walk_succ (seen held : Nat) (rest : List Line) :
    walk tabWidth base (seen + 1) (held + 1) rest = walk tabWidth base seen held rest + 1 := by
  induction rest generalizing seen held with
  | nil => rfl
  | cons line rest ih =>
    rw [walk, walk]
    split
    · exact ih (seen + 1) held
    · split
      · exact ih (seen + 1) (seen + 1)
      · rfl

/-- A walk that has seen an empty line more. -/
theorem walk_nil_cons {seen held : Nat} (bound : held ≤ seen) (rest : List Line) :
    walk tabWidth base seen held ([] :: rest) =
      renumbered seen (walk tabWidth base seen held rest) := by
  have passed :
      walk tabWidth base seen held ([] :: rest) = walk tabWidth base (seen + 1) held rest := rfl
  rw [passed]
  clear passed
  induction rest generalizing seen with
  | nil => exact (renumbered_of_le bound).symm
  | cons line rest ih =>
    rw [walk, walk]
    split
    · -- The walk stays with what it held, or it gets beyond this line.
      rw [ih (Nat.le_succ_of_le bound)]
      rcases walk_eq_or_lt tabWidth base (seen + 1) held rest with stays | reaches
      · rw [stays, renumbered_of_le bound, renumbered_of_le (Nat.le_succ_of_le bound)]
      · rw [renumbered_of_lt reaches, renumbered_of_lt (Nat.lt_of_succ_lt reaches)]
    · split
      · have beyond := (walk_bounds tabWidth base (Nat.le_refl (seen + 1)) rest).1
        rw [walk_succ, renumbered_of_lt beyond]
      · exact (renumbered_of_le bound).symm

theorem walk_gap {seen held : Nat} (bound : held ≤ seen) (rest back : List Line) :
    walk tabWidth base seen held (rest ++ [] :: back) =
      renumbered (seen + rest.length) (walk tabWidth base seen held (rest ++ back)) := by
  induction rest generalizing seen held with
  | nil => exact walk_nil_cons tabWidth base bound back
  | cons line rest ih =>
    rw [List.cons_append, List.cons_append, walk, walk, List.length_cons,
      show seen + (rest.length + 1) = seen + 1 + rest.length by omega]
    split
    · exact ih (Nat.le_succ_of_le bound)
    · split
      · exact ih (Nat.le_refl _)
      · exact (renumbered_of_le (by omega)).symm

end Indent

/-! ## Lines that were read to their end -/

namespace Lexer

theorem endLine_endLine (l : Lexer) : l.endLine.endLine = l.endLine := by
  cases l with
  | quoted quote escaped =>
    by_cases template : quote = templateQuote <;> simp [endLine, template]
  | _ => rfl

theorem endLine_afterLine (counting : Counting) (l : Lexer) (line : Line) :
    (l.afterLine counting line).endLine = l.afterLine counting line := by
  induction line generalizing l with
  | nil => exact endLine_endLine l
  | cons c rest ih => exact ih _

end Lexer

namespace Brace

/-- Whether a scan stands between two lines. -/
def Scan.AtRest (s : Scan) : Prop :=
  s.lexer.endLine = s.lexer

namespace Scan

/-- A line that was read leaves the scan at rest. -/
theorem atRest_of_read {counting : Counting} {s s' : Scan} {line : Line}
    (read : s.read counting line = .more s') : s'.AtRest := by
  rw [read_eq] at read
  cases counted : s.phase.readAll (s.lexer.codeOf counting line) with
  | more phase =>
    rw [counted] at read
    cases read
    exact Lexer.endLine_afterLine counting s.lexer line
  | closed =>
    rw [counted] at read
    cases read
  | rejected =>
    rw [counted] at read
    cases read

namespace AtRest

variable {s : Scan} (rest : s.AtRest)
include rest

theorem next {counting : Counting} {tabWidth base : Nat} {line : Line} {s' : Scan}
    (next : s.next counting tabWidth base line = .more s') : s'.AtRest := by
  unfold Scan.next at next
  split at next
  · split at next
    · cases next
      exact rest
    · split at next
      · exact atRest_of_read next
      · cases next
  · exact atRest_of_read next

/-- **An empty line leaves a scan at rest as it is.** -/
theorem next_nil (counting : Counting) (tabWidth base : Nat) :
    s.next counting tabWidth base [] = .more s := by
  have read : s.read counting [] = .more s := by
    show Progress.more { s with lexer := s.lexer.endLine } = _
    rw [rest]
  unfold Scan.next
  split
  · rfl
  · exact read

end AtRest
end Scan

/-! ## Blocks by braces -/

variable (counting : Counting) (tabWidth base : Nat)

/-- A walk that begins one line later ends one line later. -/
theorem walk_succ (seen : Nat) (s : Scan) (rest : List Line) :
    walk counting tabWidth base (seen + 1) s rest =
      (walk counting tabWidth base seen s rest).map (· + 1) := by
  induction rest generalizing seen s with
  | nil =>
    rw [walk, walk]
    split <;> rfl
  | cons line rest ih =>
    rw [walk, walk]
    cases s.next counting tabWidth base line with
    | more s => exact ih (seen + 1) s
    | closed => rfl
    | rejected => rfl

/-- The lines do not end with the empty one: a body that never closes runs to the last of them. -/
theorem walk_gap {s : Scan} (atRest : s.AtRest) (seen : Nat) (rest : List Line) {back : List Line}
    (more : back ≠ []) :
    walk counting tabWidth base seen s (rest ++ [] :: back) =
      (walk counting tabWidth base seen s (rest ++ back)).map (renumbered (seen + rest.length)) := by
  induction rest generalizing seen s with
  | nil =>
    obtain ⟨line, back, rfl⟩ := List.exists_cons_of_ne_nil more
    rw [List.nil_append, List.nil_append, walk, atRest.next_nil]
    show walk counting tabWidth base (seen + 1) s (line :: back) = _
    rw [walk_succ]
    refine Option.map_congr fun extent found => ?_
    exact (renumbered_of_lt (lt_walk found)).symm
  | cons line rest ih =>
    rw [List.cons_append, List.cons_append, walk, walk, List.length_cons,
      show seen + (rest.length + 1) = seen + 1 + rest.length by omega]
    cases next : s.next counting tabWidth base line with
    | more s' => exact ih (atRest.next next) (seen + 1)
    | closed => exact congrArg some (renumbered_of_le (by omega)).symm
    | rejected => rfl

end Brace

/-! ## Both -/

/-- **A gap makes a block longer by itself.**  With an empty line put in, a block that reaches beyond
it has one line more, and any other block has the lines that it had. -/
theorem extent?_gap (options : Options) (style : Style) (header : Line) (rest : List Line)
    {back : List Line} (more : back ≠ []) :
    extent? options style header (rest ++ [] :: back) =
      (extent? options style header (rest ++ back)).map (renumbered rest.length) := by
  cases style with
  | indent =>
    have walked := Indent.walk_gap options.tabWidth (header.indent options.tabWidth)
      (Nat.le_refl 0) rest back
    rw [Nat.zero_add] at walked
    exact congrArg some walked
  | brace =>
    simp only [extent?, Brace.extent?]
    cases read : Brace.Scan.start.read options.counting header with
    | more s =>
      have walked := Brace.walk_gap options.counting options.tabWidth
        (header.indent options.tabWidth) (Brace.Scan.atRest_of_read read) 0 rest more
      rw [Nat.zero_add] at walked
      exact walked
    | closed => exact congrArg some (renumbered_of_le (Nat.zero_le _)).symm
    | rejected => rfl

end Block
end CodeGloss
