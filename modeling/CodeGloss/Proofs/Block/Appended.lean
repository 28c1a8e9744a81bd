import CodeGloss.Proofs.Block.Code

/-!
# Blocks and lines that come below

Whether there is a block, and where it ends, is not always settled by the lines that there are.  A
body that is open at the last of them may be closed later; a declaration that has not come to its
body may come to it; lines that are blank may turn out to belong to an indented block.  What is
settled stays as it is when lines are appended, and what is not settled either stays as it is too or
reaches beyond the lines that there were (`extent?_append`).
-/

namespace CodeGloss
namespace Block

/-! ## Blocks by indentation -/

namespace Indent

variable (tabWidth base : Nat)

/-- A walk stays with the lines that it holds, or it reaches beyond those that it has seen. -/
theorem walk_eq_or_lt (seen held : Nat) (rest : List Line) :
    walk tabWidth base seen held rest = held ∨ seen < walk tabWidth base seen held rest := by
  induction rest generalizing seen held with
  | nil => exact .inl rfl
  | cons line rest ih =>
    rw [walk]
    split
    · rcases ih (seen + 1) held with stays | reaches
      · exact .inl stays
      · exact .inr (Nat.lt_of_succ_lt reaches)
    · split
      · right
        rcases ih (seen + 1) (seen + 1) with stays | reaches
        · rw [stays]
          exact Nat.lt_succ_self seen
        · exact Nat.lt_of_succ_lt reaches
      · exact .inl rfl

theorem walk_append (seen held : Nat) (rest more : List Line) :
    walk tabWidth base seen held (rest ++ more) = walk tabWidth base seen held rest ∨
      seen + rest.length < walk tabWidth base seen held (rest ++ more) := by
  induction rest generalizing seen held with
  | nil => exact walk_eq_or_lt tabWidth base seen held more
  | cons line rest ih =>
    rw [List.cons_append, walk, walk, List.length_cons,
      show seen + (rest.length + 1) = seen + 1 + rest.length by omega]
    split
    · exact ih (seen + 1) held
    · split
      · exact ih (seen + 1) (seen + 1)
      · exact .inl rfl

end Indent

/-! ## Blocks by braces -/

namespace Brace

variable (counting : Counting) (tabWidth base : Nat)

/-- Where the lines run out, more of them settle what is open, or find what was not there, below. -/
theorem walk_eq_or_lt (seen : Nat) (s : Scan) (more : List Line) :
    walk counting tabWidth base seen s more = walk counting tabWidth base seen s [] ∨
      ∃ extent, seen < extent ∧ walk counting tabWidth base seen s more = some extent := by
  cases more with
  | nil => exact .inl rfl
  | cons line more =>
    cases found : walk counting tabWidth base seen s (line :: more) with
    | some extent => exact .inr ⟨extent, lt_walk found, rfl⟩
    | none =>
      -- A body that is open has an end, so there was none.
      left
      rw [walk, if_neg]
      intro opened
      have has : (walk counting tabWidth base seen s (line :: more)).isSome = true :=
        isSome_walk opened
      rw [found] at has
      cases has

theorem walk_append (seen : Nat) (s : Scan) (rest more : List Line) :
    walk counting tabWidth base seen s (rest ++ more) = walk counting tabWidth base seen s rest ∨
      ∃ extent, seen + rest.length < extent ∧
        walk counting tabWidth base seen s (rest ++ more) = some extent := by
  induction rest generalizing seen s with
  | nil => exact walk_eq_or_lt counting tabWidth base seen s more
  | cons line rest ih =>
    rw [List.cons_append, walk, walk, List.length_cons,
      show seen + (rest.length + 1) = seen + 1 + rest.length by omega]
    cases s.next counting tabWidth base line with
    | more s => exact ih (seen + 1) s
    | closed => exact .inl rfl
    | rejected => exact .inl rfl

end Brace

/-! ## Both -/

/-- **What is settled stays as it is.**  With lines appended, a block has the extent that it had, if
it had one, or it reaches beyond the lines that there were. -/
theorem extent?_append (options : Options) (style : Style) (header : Line)
    (rest more : List Line) :
    extent? options style header (rest ++ more) = extent? options style header rest ∨
      ∃ extent, rest.length < extent ∧
        extent? options style header (rest ++ more) = some extent := by
  cases style with
  | indent =>
    have walked := Indent.walk_append options.tabWidth (header.indent options.tabWidth) 0 0 rest more
    rw [Nat.zero_add] at walked
    exact walked.imp (congrArg some) fun reaches => ⟨_, reaches, rfl⟩
  | brace =>
    simp only [extent?, Brace.extent?]
    cases Brace.Scan.start.read options.counting header with
    | more s =>
      have walked := Brace.walk_append options.counting options.tabWidth
        (header.indent options.tabWidth) 0 s rest more
      rw [Nat.zero_add] at walked
      exact walked
    | closed => exact .inl rfl
    | rejected => exact .inl rfl

end Block
end CodeGloss
