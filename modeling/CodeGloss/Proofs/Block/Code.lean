import CodeGloss.Proofs.Block.Positions

/-!
# Lexing and counting are two things

The brace matcher lexes and counts in one go, character by character.  A line can as well be lexed
first, which leaves its characters of code (`Lexer.codeOf`), and these be counted afterwards
(`Phase.readAll`); `readLine_eq` says that this comes to the same.  What is said about counting
below holds under every policy, as the policies differ in what is code.

Under the naive policy all characters of a line are code (`Lexer.codeOf_naive`).

A line that comes after the header is read in this way, unless it is turned down before any of it is
read (`Scan.next_cases`).  One that is passed over is blank, and blanks are not counted.
-/

namespace CodeGloss
namespace Block

/-! ## Lexing -/

namespace Lexer

/-- The characters of a line that are code. -/
def codeOf (counting : Counting) : Lexer → Line → List Char
  | _, [] => []
  | l, c :: rest =>
    if (l.read counting c rest).2 then c :: codeOf counting (l.read counting c rest).1 rest
    else codeOf counting (l.read counting c rest).1 rest

/-- The lexer after a line. -/
def afterLine (counting : Counting) : Lexer → Line → Lexer
  | l, [] => l.endLine
  | l, c :: rest => afterLine counting (l.read counting c rest).1 rest

@[simp] theorem codeOf_naive (l : Lexer) (line : Line) : l.codeOf .naive line = line := by
  induction line with
  | nil => rfl
  | cons c rest ih => exact congrArg (c :: ·) ih

theorem codeOf_subset (counting : Counting) (l : Lexer) (line : Line) :
    l.codeOf counting line ⊆ line := by
  induction line generalizing l with
  | nil => exact List.Subset.refl []
  | cons c rest ih =>
    rw [codeOf]
    split
    · exact List.cons_subset_cons c (ih _)
    · exact List.subset_cons_of_subset c (ih _)

end Lexer

namespace Brace

open Positional (carry)

/-! ## Counting -/

/-- Reads some characters of code. -/
def Phase.readAll : Phase → List Char → Progress Phase
  | phase, [] => .more phase
  | phase, c :: s =>
    match phase.read c with
    | .more phase => phase.readAll s
    | .closed => .closed
    | .rejected => .rejected

namespace Phase

/-- Blanks are not counted. -/
theorem read_of_isBlank {c : Char} (blank : Text.isBlank c = true) (phase : Phase) :
    phase.read c = .more phase := by
  have other : ∀ d : Char, Text.isBlank d = false → (c == d) = false := by
    intro d solid
    rw [beq_eq_false_iff_ne]
    rintro rfl
    rw [blank] at solid
    cases solid
  have opening := other '(' (by decide)
  have opening' := other '[' (by decide)
  have closing := other ')' (by decide)
  have closing' := other ']' (by decide)
  have brace := other '{' (by decide)
  have brace' := other '}' (by decide)
  have semicolon := other ';' (by decide)
  cases phase <;>
    simp only [read, opening, opening', closing, closing', brace, brace', semicolon, Bool.or_false,
      Bool.false_and, Bool.false_eq_true, if_false]

theorem readAll_of_isBlank {s : List Char} (blank : ∀ c ∈ s, Text.isBlank c = true)
    (phase : Phase) : phase.readAll s = .more phase := by
  induction s with
  | nil => rfl
  | cons c s ih =>
    rw [readAll, read_of_isBlank (blank c List.mem_cons_self)]
    exact ih fun d mem => blank d (List.mem_cons_of_mem c mem)

theorem isOpen_iff {phase : Phase} : phase.isOpen = true ↔ ∃ inner, phase = inside inner := by
  cases phase <;> simp [isOpen]

/-- An open body stays open or is closed, but is not rejected. -/
theorem read_inside (inner : Nat) (c : Char) :
    (inside inner).read c = .closed ∨ ∃ inner', (inside inner).read c = .more (inside inner') := by
  simp only [read]
  split
  · exact .inr ⟨_, rfl⟩
  · split
    · cases inner with
      | zero => exact .inl rfl
      | succ outer => exact .inr ⟨outer, rfl⟩
    · exact .inr ⟨_, rfl⟩

theorem readAll_inside (inner : Nat) (s : List Char) :
    (inside inner).readAll s = .closed ∨
      ∃ inner', (inside inner).readAll s = .more (inside inner') := by
  induction s generalizing inner with
  | nil => exact .inr ⟨inner, rfl⟩
  | cons c s ih =>
    rw [readAll]
    rcases read_inside inner c with read | ⟨inner', read⟩
    · rw [read]
      exact .inl rfl
    · rw [read]
      exact ih inner'

end Phase

/-! ## Lines -/

/-- **A line is read by counting its code.** -/
theorem readLine_eq (counting : Counting) (lexer : Lexer) (phase : Phase) (line : Line) :
    readLine counting lexer phase line =
      carry (lexer.afterLine counting line, ·) (phase.readAll (lexer.codeOf counting line)) := by
  induction line generalizing lexer phase with
  | nil => rfl
  | cons c rest ih =>
    rw [readLine, Lexer.codeOf, Lexer.afterLine]
    generalize lexer.read counting c rest = reading
    obtain ⟨lexer, isCode⟩ := reading
    cases isCode with
    | false => exact ih lexer phase
    | true =>
      simp only [if_true, Phase.readAll]
      cases phase.read c with
      | more phase => exact ih lexer phase
      | closed => rfl
      | rejected => rfl

namespace Scan

theorem read_eq (counting : Counting) (s : Scan) (line : Line) :
    s.read counting line =
      carry (fun phase => { s with lexer := s.lexer.afterLine counting line, phase })
        (s.phase.readAll (s.lexer.codeOf counting line)) := by
  rw [read, readLine_eq]
  cases s.phase.readAll (s.lexer.codeOf counting line) <;> rfl

/-- A line does to a scan what its code does to the phase. -/
theorem read_cases (counting : Counting) (s : Scan) (line : Line) :
    s.read counting line = .rejected ∨
      s.read counting line = .closed ∧
        s.phase.readAll (s.lexer.codeOf counting line) = .closed ∨
      ∃ s', s.read counting line = .more s' ∧
        s.phase.readAll (s.lexer.codeOf counting line) = .more s'.phase := by
  rw [read_eq]
  cases s.phase.readAll (s.lexer.codeOf counting line) with
  | more phase => exact .inr (.inr ⟨_, rfl, rfl⟩)
  | closed => exact .inr (.inl ⟨rfl, rfl⟩)
  | rejected => exact .inl rfl

/-- A line that may come next changes neither the lexer nor the phase before it is read. -/
theorem of_goesOn? {tabWidth base : Nat} {s s' : Scan} {line : Line}
    (goes : s.goesOn? tabWidth base line = some s') : s'.lexer = s.lexer ∧ s'.phase = s.phase := by
  unfold goesOn? at goes
  split at goes
  · cases goes
    exact ⟨rfl, rfl⟩
  · split at goes
    · cases goes
    · cases goes
      exact ⟨rfl, rfl⟩

/-- **A line after the header is turned down, or its code is counted.** -/
theorem next_cases (counting : Counting) (tabWidth base : Nat) (s : Scan) (line : Line) :
    s.next counting tabWidth base line = .rejected ∨
      s.next counting tabWidth base line = .closed ∧
        s.phase.readAll (s.lexer.codeOf counting line) = .closed ∨
      ∃ s', s.next counting tabWidth base line = .more s' ∧
        s.phase.readAll (s.lexer.codeOf counting line) = .more s'.phase := by
  unfold Scan.next
  split
  · split
    next blank =>
      rw [Text.isAllBlank, List.all_eq_true] at blank
      refine .inr (.inr ⟨s, rfl, Phase.readAll_of_isBlank ?_ s.phase⟩)
      exact fun c mem => blank c (Lexer.codeOf_subset counting s.lexer line mem)
    next =>
      split
      next s' goes =>
        obtain ⟨lexer, phase⟩ := of_goesOn? goes
        rw [← lexer, ← phase]
        exact read_cases counting s' line
      next => exact .inl rfl
  · exact read_cases counting s line

/-- A body that is open is open after the next line or closed on it. -/
theorem next_of_isOpen {counting : Counting} {tabWidth base : Nat} {s : Scan}
    (opened : s.phase.isOpen = true) (line : Line) :
    s.next counting tabWidth base line = .closed ∨
      ∃ s', s.next counting tabWidth base line = .more s' ∧ s'.phase.isOpen = true := by
  obtain ⟨inner, phase⟩ := Phase.isOpen_iff.mp opened
  have awaits : s.awaitsBody = false := by
    rw [awaitsBody, phase]
    rfl
  rw [Scan.next, awaits, if_neg Bool.false_ne_true, read_eq, phase]
  rcases Phase.readAll_inside inner (s.lexer.codeOf counting line) with counted | ⟨_, counted⟩
  · rw [counted]
    exact .inl rfl
  · rw [counted]
    exact .inr ⟨_, rfl, rfl⟩

end Scan

/-! ## Walks -/

section Walk

variable {counting : Counting} {tabWidth base seen extent : Nat} {s : Scan} {rest : List Line}

/-- A walk does not go back. -/
theorem le_walk (found : walk counting tabWidth base seen s rest = some extent) :
    seen ≤ extent := by
  induction rest generalizing seen s with
  | nil =>
    rw [walk] at found
    split at found
    · cases found
      exact Nat.le_refl _
    · cases found
  | cons line rest ih =>
    rw [walk] at found
    split at found
    · exact Nat.le_of_succ_le (ih found)
    · cases found
      exact Nat.le_succ _
    · cases found

/-- A walk that has lines to go reads one of them at least. -/
theorem lt_walk {line : Line}
    (found : walk counting tabWidth base seen s (line :: rest) = some extent) : seen < extent := by
  rw [walk] at found
  split at found
  · exact le_walk found
  · cases found
    exact Nat.lt_succ_self _
  · cases found

/-- A body that is open has an end. -/
theorem isSome_walk (opened : s.phase.isOpen = true) :
    (walk counting tabWidth base seen s rest).isSome = true := by
  induction rest generalizing seen s with
  | nil => rw [walk, if_pos opened, Option.isSome_some]
  | cons line rest ih =>
    rw [walk]
    rcases Scan.next_of_isOpen opened line with next | ⟨s', next, opened⟩
    · rw [next]
      rfl
    · rw [next]
      exact ih opened

/-- A block ends on the line of its header, or it is found by a walk over the lines after it. -/
theorem extent?_cases {header : Line}
    (found : extent? counting tabWidth header rest = some extent) :
    extent = 0 ∨
      ∃ s, (Phase.seeking 0).readAll (Lexer.start.codeOf counting header) = .more s.phase ∧
        walk counting tabWidth (header.indent tabWidth) 0 s rest = some extent := by
  rw [extent?] at found
  rcases Scan.read_cases counting Scan.start header with
    rejected | ⟨closed, -⟩ | ⟨s, read, counted⟩
  · rw [rejected] at found
    cases found
  · rw [closed] at found
    cases found
    exact .inl rfl
  · rw [read] at found
    exact .inr ⟨s, counted, found⟩

end Walk

end Brace
end Block
end CodeGloss
