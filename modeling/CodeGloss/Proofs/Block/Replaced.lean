import CodeGloss.Proofs.Block.Balance

/-!
# Blocks and a line that is replaced

Two lines may differ and still come to the same for the search for a block.  They have the same code
for the lexer that gets to them, and leave it in the same state (`Lexer.ReadAlike`).  And if the
line begins outside literals and comments, where it may be asked whether it is fit to come before
the body, they begin alike: with the same blanks, with a brace or without, with the word `where` or
without (`BeginAlike`).  They do so whenever they are the same up to some character that is neither
blank nor one of that word (`beginAlike_of_mark`).

A block has the same extent if a line that it covers, or its header, is replaced by such a line
(`extent?_replaced`).  If the block had ended before, the line may be replaced by any other one
(`Brace.extent?_of_ended`).
-/

namespace CodeGloss
namespace Block

/-! ## Lexing in parts -/

namespace Lexer

variable {counting : Counting} {l : Lexer}

/-- The lexer after some characters of a line when `rest` is what follows on the line. -/
def advance (counting : Counting) : Lexer → List Char → List Char → Lexer
  | l, [], _ => l
  | l, c :: front, rest => advance counting (l.read counting c (front ++ rest)).1 front rest

/-- The lexer before a position of a line, when lines are read from the line `start` on. -/
def before (counting : Counting) (lines : List Line) (start row column : Nat) : Lexer :=
  let line := lines.getD row []
  (Lexer.start.afterLines counting ((lines.take row).drop start)).advance counting
    (line.take column) (line.drop column)

theorem before_append (counting : Counting) (above below : List Line) (front rest : List Char)
    (row : Nat) :
    before counting (above ++ (front ++ rest) :: below) row above.length front.length =
      (start.afterLines counting (above.drop row)).advance counting front rest := by
  simp [before]

/-- Whether two lines have the same code and leave the lexer in the same state. -/
structure ReadAlike (counting : Counting) (l : Lexer) (line line' : Line) : Prop where
  code : l.codeOf counting line = l.codeOf counting line'
  after : l.afterLine counting line = l.afterLine counting line'

theorem ReadAlike.refl (line : Line) : ReadAlike counting l line line :=
  ⟨rfl, rfl⟩

theorem ReadAlike.symm {line line' : Line} (alike : ReadAlike counting l line line') :
    ReadAlike counting l line' line :=
  ⟨alike.code.symm, alike.after.symm⟩

/-- Lines are read alike if their first characters are, and then what follows is. -/
theorem ReadAlike.of_read {c d : Char} {rest rest' : List Char} {l' : Lexer}
    (here : l.read counting c rest = (l', false)) (here' : l.read counting d rest' = (l', false))
    (alike : ReadAlike counting l' rest rest') : ReadAlike counting l (c :: rest) (d :: rest') := by
  constructor
  · simp only [codeOf, here, here', alike.code, Bool.false_eq_true, if_false]
  · simp only [afterLine, here, here', alike.after]

theorem ReadAlike.cons {c : Char} {rest rest' : List Char}
    (same : l.read counting c rest = l.read counting c rest')
    (alike : ReadAlike counting (l.read counting c rest).1 rest rest') :
    ReadAlike counting l (c :: rest) (c :: rest') := by
  rw [same] at alike
  constructor
  · simp only [codeOf, same, alike.code]
  · simp only [afterLine, same, alike.after]

/-- What follows on the line matters to an apostrophe in code only. -/
theorem read_congr {c : Char} {rest rest' : List Char}
    (same : ∀ slash, l = code slash → c = '\'' → opensLiteral rest = opensLiteral rest') :
    l.read .literalAware c rest = l.read .literalAware c rest' := by
  cases l with
  | code slash =>
    by_cases quote : c = '\''
    · simp only [read, step, stepCode, same slash rfl quote]
    · simp only [read, step, stepCode, beq_eq_false_iff_ne.mpr quote, Bool.false_and]
  | _ => rfl

/-- Lines are read alike if they begin with the same characters, and no apostrophe among these looks
at what follows. -/
theorem ReadAlike.append {front rest rest' : List Char} (none : '\'' ∉ front)
    (alike : ReadAlike .literalAware (l.advance .literalAware front rest) rest rest') :
    ReadAlike .literalAware l (front ++ rest) (front ++ rest') := by
  induction front generalizing l with
  | nil => exact alike
  | cons c front ih =>
    rw [List.mem_cons, not_or] at none
    exact .cons (read_congr fun _ _ quote => absurd quote.symm none.1) (ih none.2 alike)

end Lexer

open Lexer (ReadAlike)

/-! ## How lines begin -/

/-- Whether two lines begin alike, as far as this is looked at in headers and before bodies. -/
structure BeginAlike (line line' : Line) : Prop where
  blank : Text.isAllBlank line = Text.isAllBlank line'
  indent : ∀ tabWidth, line.indent tabWidth = line'.indent tabWidth
  first : (Text.trimStart line).head? = (Text.trimStart line').head?
  startsWhere : Brace.Scan.startsWhere line = Brace.Scan.startsWhere line'

theorem BeginAlike.symm {line line' : Line} (alike : BeginAlike line line') :
    BeginAlike line' line :=
  ⟨alike.blank.symm, fun tabWidth => (alike.indent tabWidth).symm, alike.first.symm,
    alike.startsWhere.symm⟩

section Mark

variable {front back : List Char} {x : Char}

theorem trimStart_mark (solid : Text.isBlank x = false) :
    Text.trimStart (front ++ x :: back) = Text.trimStart front ++ x :: back := by
  induction front with
  | nil => simp [Text.trimStart, solid]
  | cons c front ih =>
    rw [List.cons_append, Text.trimStart, Text.trimStart, List.dropWhile_cons, List.dropWhile_cons]
    split
    · exact ih
    · rfl

/-- A first word that reaches such a character is not `where`. -/
theorem startsWhere_mark (solid : Text.isBlank x = false) (foreign : x ∉ "where".toList)
    (back back' : List Char) :
    Brace.Scan.startsWhere (front ++ x :: back) = Brace.Scan.startsWhere (front ++ x :: back') := by
  have other : ∀ more, (Text.trimStart front ++ x :: more == "where".toList) = false := by
    intro more
    rw [beq_eq_false_iff_ne]
    intro eq
    refine foreign ?_
    rw [← eq]
    simp
  have goes : ∀ more, (x :: more).takeWhile (!Text.isBlank ·) =
      x :: more.takeWhile (!Text.isBlank ·) :=
    fun more => List.takeWhile_cons_of_pos (by simp [solid])
  simp only [Brace.Scan.startsWhere, trimStart_mark solid, List.takeWhile_append, goes]
  split
  · rw [other, other]
  · rfl

/-- **Lines begin alike** if they are the same up to a character that is neither blank nor one of
the word `where`. -/
theorem beginAlike_of_mark (solid : Text.isBlank x = false) (foreign : x ∉ "where".toList)
    (back back' : List Char) : BeginAlike (front ++ x :: back) (front ++ x :: back') where
  blank := by simp [Text.isAllBlank, solid]
  indent tabWidth := by simp [Line.indent, List.takeWhile_append, solid]
  first := by
    rw [trimStart_mark solid, trimStart_mark solid]
    simp [List.head?_append]
  startsWhere := startsWhere_mark solid foreign back back'

end Mark

/-! ## Blocks by indentation -/

theorem Indent.walk_replaced {line line' : Line} (begins : BeginAlike line line')
    (tabWidth base seen held : Nat) (above below : List Line) :
    walk tabWidth base seen held (above ++ line :: below) =
      walk tabWidth base seen held (above ++ line' :: below) := by
  induction above generalizing seen held with
  | nil => rw [List.nil_append, List.nil_append, walk, walk, begins.blank, begins.indent]
  | cons first above ih =>
    rw [List.cons_append, List.cons_append, walk, walk]
    split
    · exact ih (seen + 1) held
    · split
      · exact ih (seen + 1) (seen + 1)
      · rfl

/-! ## Blocks by braces -/

namespace Brace

variable {counting : Counting} {tabWidth base : Nat} {line line' : Line}

namespace Scan

variable {s s' : Scan}

theorem read_congr (alike : ReadAlike counting s.lexer line line') :
    s.read counting line = s.read counting line' := by
  rw [read_eq, read_eq, alike.code, alike.after]

/-- A line after the header may be replaced by one that is read alike, and that begins alike if the
line begins in code. -/
theorem next_congr (alike : ReadAlike counting s.lexer line line')
    (begin_ : s.lexer.inLiteral = false → BeginAlike line line') :
    s.next counting tabWidth base line = s.next counting tabWidth base line' := by
  unfold Scan.next
  by_cases awaits : s.awaitsBody = true
  · have plain : s.lexer.inLiteral = false := by
      rw [awaitsBody, Bool.and_eq_true, Bool.not_eq_true'] at awaits
      exact awaits.2
    have begins := begin_ plain
    have goes : s.goesOn? tabWidth base line = s.goesOn? tabWidth base line' := by
      rw [goesOn?, goesOn?, isShallow, isShallow, begins.startsWhere, begins.indent, begins.first]
    rw [if_pos awaits, if_pos awaits, begins.blank, goes]
    split
    · rfl
    · split
      next s' goes' =>
        rw [← (of_goesOn? goes').1] at alike
        exact read_congr alike
      next => rfl
  · rw [if_neg awaits, if_neg awaits]
    exact read_congr alike

theorem lexer_of_read (read : s.read counting line = .more s') :
    s'.lexer = s.lexer.afterLine counting line := by
  rw [read_eq] at read
  cases counted : s.phase.readAll (s.lexer.codeOf counting line) <;> rw [counted] at read <;>
    cases read
  rfl

/-- The lexer goes on from line to line, also over those that are passed over. -/
theorem AtRest.lexer_of_next (rest : s.AtRest)
    (next : s.next counting tabWidth base line = .more s') :
    s'.lexer = s.lexer.afterLine counting line := by
  unfold Scan.next at next
  split at next
  next awaits =>
    rw [awaitsBody, Bool.and_eq_true, Bool.not_eq_true'] at awaits
    split at next
    next blank =>
      cases next
      exact (Lexer.afterLine_eq_self rest awaits.2 blank).symm
    next =>
      split at next
      next goes =>
        rw [lexer_of_read next, (of_goesOn? goes).1]
      next => cases next
  next => exact lexer_of_read next

end Scan

/-- A walk goes on in the same way when one of the lines is replaced. -/
theorem walk_replaced {s : Scan} (rest : s.AtRest) (above below : List Line)
    (alike : ReadAlike counting (s.lexer.afterLines counting above) line line')
    (begin_ : (s.lexer.afterLines counting above).inLiteral = false → BeginAlike line line')
    (seen : Nat) :
    walk counting tabWidth base seen s (above ++ line :: below) =
      walk counting tabWidth base seen s (above ++ line' :: below) := by
  induction above generalizing s seen with
  | nil =>
    rw [List.nil_append, List.nil_append, walk, walk, Scan.next_congr alike begin_]
  | cons first above ih =>
    rw [List.cons_append, List.cons_append, walk, walk]
    cases next : s.next counting tabWidth base first with
    | more s' =>
      have lexer := rest.lexer_of_next next
      refine ih (rest.next next) ?_ ?_ (seen + 1)
      · rw [lexer]
        exact alike
      · rw [lexer]
        exact begin_
    | closed => rfl
    | rejected => rfl

/-- A walk that has ended before a line does not depend on what comes there. -/
theorem walk_of_ended {seen extent : Nat} {s : Scan} {above below : List Line}
    (found : walk counting tabWidth base seen s (above ++ line :: below) = some extent)
    (ended : extent ≤ seen + above.length) (more : List Line) :
    walk counting tabWidth base seen s (above ++ more) = some extent := by
  induction above generalizing s seen with
  | nil =>
    have later := lt_walk found
    rw [List.length_nil] at ended
    omega
  | cons first above ih =>
    rw [List.cons_append, walk] at found ⊢
    rw [List.length_cons] at ended
    cases next : s.next counting tabWidth base first with
    | more s' =>
      rw [next] at found
      exact ih found (by omega)
    | closed =>
      rw [next] at found
      exact found
    | rejected =>
      rw [next] at found
      exact found

theorem extent?_of_ended {extent : Nat} {header : Line} {above below : List Line}
    (found : extent? counting tabWidth header (above ++ line :: below) = some extent)
    (ended : extent ≤ above.length) (more : List Line) :
    extent? counting tabWidth header (above ++ more) = some extent := by
  unfold extent? at found ⊢
  cases read : Scan.start.read counting header with
  | more s =>
    rw [read] at found
    exact walk_of_ended found (by omega) more
  | closed =>
    rw [read] at found
    exact found
  | rejected =>
    rw [read] at found
    exact found

/-- The header itself is replaced. -/
theorem extent?_header (alike : ReadAlike counting Lexer.start line line')
    (begins : BeginAlike line line') (rest : List Line) :
    extent? counting tabWidth line rest = extent? counting tabWidth line' rest := by
  have read : Scan.start.read counting line = Scan.start.read counting line' :=
    Scan.read_congr alike
  rw [extent?, extent?, read, begins.indent]

/-- A line after the header is replaced. -/
theorem extent?_replaced (header : Line) (above below : List Line)
    (alike : ReadAlike counting (Lexer.start.afterLines counting (header :: above)) line line')
    (begin_ : (Lexer.start.afterLines counting (header :: above)).inLiteral = false →
      BeginAlike line line') :
    extent? counting tabWidth header (above ++ line :: below) =
      extent? counting tabWidth header (above ++ line' :: below) := by
  rw [extent?, extent?]
  cases read : Scan.start.read counting header with
  | more s =>
    have lexer : s.lexer = Lexer.start.afterLine counting header := Scan.lexer_of_read read
    refine walk_replaced (Scan.atRest_of_read read) above below ?_ ?_ 0
    · rw [lexer]
      exact alike
    · rw [lexer]
      exact begin_
  | closed => rfl
  | rejected => rfl

end Brace

/-! ## Both -/

/-- **A line may be replaced** by one that begins alike, without a block that starts above it
getting another extent, if the block ends before that line or the line is read alike. -/
theorem extent?_replaced {options : Options} {style : Style} {header line line' : Line}
    {above below : List Line} {extent : Nat}
    (found : extent? options style header (above ++ line :: below) = some extent)
    (begins : BeginAlike line line')
    (alike : above.length < extent → ReadAlike options.counting
      (Lexer.start.afterLines options.counting (header :: above)) line line') :
    extent? options style header (above ++ line' :: below) = some extent := by
  cases style with
  | indent =>
    rw [← found]
    exact congrArg some (Indent.walk_replaced begins _ _ 0 0 above below).symm
  | brace =>
    by_cases reaches : above.length < extent
    · rw [← found]
      exact (Brace.extent?_replaced header above below (alike reaches) fun _ => begins).symm
    · exact Brace.extent?_of_ended found (Nat.le_of_not_lt reaches) (line' :: below)

/-- A block in braces that starts on the line or above it has the end that it had, if the line is
read alike.  It need not begin alike where it begins in a literal or a comment. -/
theorem endOf?_replaced {counting : Counting} {line line' : Line} {above : List Line} {start : Nat}
    (tabWidth : Nat) (le : start ≤ above.length) (below : List Line)
    (alike : ReadAlike counting (Lexer.start.afterLines counting (above.drop start)) line line')
    (begin_ : (Lexer.start.afterLines counting (above.drop start)).inLiteral = false →
      BeginAlike line line') :
    endOf? ⟨tabWidth, counting⟩ .brace (above ++ line :: below) start =
      endOf? ⟨tabWidth, counting⟩ .brace (above ++ line' :: below) start := by
  rw [endOf?, endOf?, List.drop_append_of_le_length le, List.drop_append_of_le_length le]
  cases before : above.drop start with
  | nil =>
    rw [before] at alike begin_
    exact congrArg (Option.map (start + ·)) (Brace.extent?_header alike (begin_ rfl) below)
  | cons header above =>
    rw [before] at alike begin_
    exact congrArg (Option.map (start + ·))
      (Brace.extent?_replaced header above below alike begin_)

end Block
end CodeGloss
