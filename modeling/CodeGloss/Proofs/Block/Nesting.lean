import CodeGloss.Proofs.Block.Bounds
import CodeGloss.Proofs.Block.Brackets
import CodeGloss.Proofs.Block.Code

/-!
# Blocks in blocks

Two blocks are read by two scans, and neither of them knows of the other one, or of what is open
around the line that it starts on.  A scan that starts in the middle of a block counts from zero; it
ignores braces inside parentheses until it has found the body, and parentheses afterwards.

Where brackets are well nested, the inner scan cannot get past the end of the outer one all the same.
What both have to do with each other is said in terms of what is open in the text (`Encloses`): the
scan whose body is open has a brace there, and the brackets opened since are those that the other one
has counted, at most or at least.  This lasts as long as both scans do (`Encloses.read`,
`Encloses.readAll`), and while it lasts the outer scan does not end.  So the inner one ends first, or
on the same line (`Brace.extent?_nested`).  Brackets that are left open do no harm to this; one that
closes the wrong bracket would.

Blocks by indentation are nested whatever the text (`Indent.extent_nested`).
-/

namespace CodeGloss
namespace Block
namespace Brace

/-! ## Phases and brackets -/

namespace Phase

/-- The phase after a parenthesis or a bracket that opens. -/
def deeper : Phase → Phase
  | seeking nesting => seeking (nesting + 1)
  | inside inner => inside inner

/-- The phase after a parenthesis or a bracket that closes. -/
def shallower : Phase → Phase
  | seeking nesting => seeking (nesting - 1)
  | inside inner => inside inner

theorem read_opening {b : Bracket} (ne : b ≠ .curly) (phase : Phase) :
    phase.read (Mark.opening b).char = .more phase.deeper := by
  cases b with
  | round => cases phase <;> rfl
  | square => cases phase <;> rfl
  | curly => exact absurd rfl ne

theorem read_closing {b : Bracket} (ne : b ≠ .curly) (phase : Phase) :
    phase.read (Mark.closing b).char = .more phase.shallower := by
  cases b with
  | round => cases phase <;> rfl
  | square => cases phase <;> rfl
  | curly => exact absurd rfl ne

/-- A body is closed by a brace only. -/
theorem read_inside_other {c : Char} (other : ∀ m : Mark, c ≠ m.char) (inner : Nat) :
    (inside inner).read c = .more (inside inner) := by
  have opening := beq_eq_false_iff_ne.mpr (other (.opening .curly))
  have closing := beq_eq_false_iff_ne.mpr (other (.closing .curly))
  simp only [Mark.char] at opening closing
  simp only [read, opening, closing, Bool.false_eq_true, if_false]

/-- Before the body, what is no bracket may be a semicolon. -/
theorem read_seeking_other {c : Char} (other : ∀ m : Mark, c ≠ m.char) (nesting : Nat) :
    (seeking nesting).read c = .more (seeking nesting) ∨ (seeking nesting).read c = .rejected := by
  have round := beq_eq_false_iff_ne.mpr (other (.opening .round))
  have square := beq_eq_false_iff_ne.mpr (other (.opening .square))
  have curly := beq_eq_false_iff_ne.mpr (other (.opening .curly))
  have round' := beq_eq_false_iff_ne.mpr (other (.closing .round))
  have square' := beq_eq_false_iff_ne.mpr (other (.closing .square))
  simp only [Mark.char] at round square curly round' square'
  simp only [read, round, square, curly, round', square', Bool.or_self, Bool.false_and,
    Bool.false_eq_true, if_false]
  split
  · exact .inr rfl
  · exact .inl rfl

end Phase

/-! ## One scan inside another -/

/-- How many parentheses and brackets were opened since an open brace that has `depth` others inside
it, if there is such a brace. -/
def openedIn? : Nat → List Bracket → Option Nat
  | _, [] => none
  | 0, .curly :: _ => some 0
  | depth + 1, .curly :: outer => openedIn? depth outer
  | depth, .round :: outer => (openedIn? depth outer).map (· + 1)
  | depth, .square :: outer => (openedIn? depth outer).map (· + 1)

theorem openedIn?_cons {b : Bracket} (ne : b ≠ .curly) (depth : Nat) (outer : List Bracket) :
    openedIn? depth (b :: outer) = (openedIn? depth outer).map (· + 1) := by
  cases b with
  | round => rw [openedIn?]
  | square => rw [openedIn?]
  | curly => exact absurd rfl ne

theorem openedIn?_cons_of_some {b : Bracket} (ne : b ≠ .curly) {depth count : Nat}
    {outer : List Bracket} (brace : openedIn? depth outer = some count) :
    openedIn? depth (b :: outer) = some (count + 1) := by
  rw [openedIn?_cons ne, brace, Option.map_some]

theorem exists_openedIn? {b : Bracket} (ne : b ≠ .curly) {depth count : Nat}
    {outer : List Bracket} (brace : openedIn? depth (b :: outer) = some count) :
    ∃ count', openedIn? depth outer = some count' ∧ count' + 1 = count := by
  rw [openedIn?_cons ne] at brace
  exact Option.map_eq_some_iff.mp brace

/-- How the scan of an outer block and one that started later, of an inner block, stand to each other
under the brackets that are open in the text. -/
inductive Encloses (opened : List Bracket) : Phase → Phase → Prop where
  /-- Both seek their body, and the outer scan has counted what the inner one has. -/
  | seeking {outer inner : Nat} (le : inner ≤ outer) :
      Encloses opened (.seeking outer) (.seeking inner)
  /-- Both are inside their body, and the outer scan has counted what the inner one has. -/
  | inside {outer inner count : Nat} (brace : openedIn? outer opened = some count)
      (le : inner ≤ outer) : Encloses opened (.inside outer) (.inside inner)
  /-- Inside the outer body the inner scan seeks its own.  What it has counted was opened in there. -/
  | within {depth nesting count : Nat} (brace : openedIn? depth opened = some count)
      (le : nesting ≤ count) : Encloses opened (.inside depth) (.seeking nesting)
  /-- The outer scan, which seeks its body, ignores the one that the inner scan has found.  It has
  counted all that was opened in there, and more. -/
  | among {depth nesting count : Nat} (brace : openedIn? depth opened = some count)
      (lt : count < nesting) : Encloses opened (.seeking nesting) (.inside depth)

namespace Encloses

variable {opened : List Bracket} {outer inner inner' : Phase}

/-- A brace that opens leaves one scan inside the other. -/
theorem read_opening_brace (rel : Encloses opened outer inner)
    (goes : inner.read (Mark.opening .curly).char = .more inner') :
    ∃ outer', outer.read (Mark.opening .curly).char = .more outer' ∧
      Encloses (.curly :: opened) outer' inner' := by
  cases rel with
  | @seeking nesting nesting' le =>
    cases nesting' with
    | zero =>
      obtain rfl := Progress.more.inj goes
      -- The inner scan has found its body.  The outer one has too, or ignores it.
      cases nesting with
      | zero => exact ⟨_, rfl, .inside rfl (Nat.le_refl 0)⟩
      | succ nesting => exact ⟨_, rfl, .among rfl (Nat.succ_pos nesting)⟩
    | succ nesting' =>
      obtain rfl := Progress.more.inj goes
      obtain ⟨nesting, rfl⟩ := Nat.exists_eq_add_of_le' le
      exact ⟨_, rfl, .seeking le⟩
  | inside brace le =>
    obtain rfl := Progress.more.inj goes
    exact ⟨_, rfl, .inside brace (Nat.succ_le_succ le)⟩
  | @within depth nesting count brace le =>
    cases nesting with
    | zero =>
      obtain rfl := Progress.more.inj goes
      exact ⟨_, rfl, .inside brace (Nat.zero_le _)⟩
    | succ nesting =>
      obtain rfl := Progress.more.inj goes
      exact ⟨_, rfl, .within brace le⟩
  | @among depth nesting count brace lt =>
    obtain rfl := Progress.more.inj goes
    obtain ⟨nesting, rfl⟩ := Nat.exists_eq_add_of_lt lt
    exact ⟨_, rfl, .among brace lt⟩

/-- Another bracket that opens leaves one scan inside the other. -/
theorem read_opening_group (rel : Encloses opened outer inner) {b : Bracket} (ne : b ≠ .curly)
    (goes : inner.read (Mark.opening b).char = .more inner') :
    ∃ outer', outer.read (Mark.opening b).char = .more outer' ∧
      Encloses (b :: opened) outer' inner' := by
  rw [Phase.read_opening ne] at goes
  cases goes
  refine ⟨outer.deeper, Phase.read_opening ne outer, ?_⟩
  cases rel with
  | seeking le => exact .seeking (Nat.succ_le_succ le)
  | inside brace le => exact .inside (openedIn?_cons_of_some ne brace) le
  | within brace le => exact .within (openedIn?_cons_of_some ne brace) (Nat.succ_le_succ le)
  | among brace lt => exact .among (openedIn?_cons_of_some ne brace) (Nat.succ_lt_succ lt)

/-- A brace that closes leaves one scan inside the other, unless one of them ends. -/
theorem read_closing_brace (rel : Encloses (.curly :: opened) outer inner)
    (goes : inner.read (Mark.closing .curly).char = .more inner') :
    outer.read (Mark.closing .curly).char = .rejected ∨
      ∃ outer', outer.read (Mark.closing .curly).char = .more outer' ∧
        Encloses opened outer' inner' := by
  cases rel with
  | @seeking nesting nesting' le =>
    cases nesting' with
    | zero => cases goes
    | succ nesting' =>
      obtain rfl := Progress.more.inj goes
      obtain ⟨nesting, rfl⟩ := Nat.exists_eq_add_of_le' le
      exact .inr ⟨_, rfl, .seeking le⟩
  | @inside depth depth' count brace le =>
    cases depth' with
    | zero => cases goes
    | succ depth' =>
      obtain rfl := Progress.more.inj goes
      cases depth with
      | zero => exact absurd le (Nat.not_succ_le_zero depth')
      | succ depth => exact .inr ⟨_, rfl, .inside brace (Nat.le_of_succ_le_succ le)⟩
  | @within depth nesting count brace le =>
    cases nesting with
    | zero => cases goes
    | succ nesting =>
      obtain rfl := Progress.more.inj goes
      cases depth with
      | zero =>
        -- The outer body ends here, so nothing is open in it, and the inner scan seeks in vain.
        cases brace
        cases le
      | succ depth => exact .inr ⟨_, rfl, .within brace le⟩
  | @among depth nesting count brace lt =>
    cases depth with
    | zero => cases goes
    | succ depth =>
      obtain rfl := Progress.more.inj goes
      obtain ⟨nesting, rfl⟩ := Nat.exists_eq_add_of_lt lt
      exact .inr ⟨_, rfl, .among brace lt⟩

/-- Another bracket that closes leaves one scan inside the other. -/
theorem read_closing_group {b : Bracket} (rel : Encloses (b :: opened) outer inner) (ne : b ≠ .curly)
    (goes : inner.read (Mark.closing b).char = .more inner') :
    ∃ outer', outer.read (Mark.closing b).char = .more outer' ∧
      Encloses opened outer' inner' := by
  rw [Phase.read_closing ne] at goes
  cases goes
  refine ⟨outer.shallower, Phase.read_closing ne outer, ?_⟩
  cases rel with
  | seeking le => exact .seeking (Nat.sub_le_sub_right le 1)
  | inside brace le =>
    obtain ⟨count, found, rfl⟩ := exists_openedIn? ne brace
    exact .inside found le
  | within brace le =>
    obtain ⟨count, found, rfl⟩ := exists_openedIn? ne brace
    exact .within found (Nat.sub_le_of_le_add le)
  | among brace lt =>
    obtain ⟨count, found, rfl⟩ := exists_openedIn? ne brace
    exact .among found (Nat.lt_sub_of_add_lt lt)

theorem read_other (rel : Encloses opened outer inner) {c : Char} (other : ∀ m : Mark, c ≠ m.char)
    (goes : inner.read c = .more inner') :
    outer.read c = .rejected ∨
      ∃ outer', outer.read c = .more outer' ∧ Encloses opened outer' inner' := by
  have same : inner' = inner := by
    cases inner with
    | seeking nesting =>
      rcases Phase.read_seeking_other other nesting with more | rejected
      · rw [more] at goes
        cases goes
        rfl
      · rw [rejected] at goes
        cases goes
    | inside depth =>
      rw [Phase.read_inside_other other] at goes
      cases goes
      rfl
  rw [same]
  cases outer with
  | seeking nesting =>
    rcases Phase.read_seeking_other other nesting with more | rejected
    · exact .inr ⟨_, more, rel⟩
    · exact .inl rejected
  | inside depth => exact .inr ⟨_, Phase.read_inside_other other depth, rel⟩

variable {opened' : List Bracket}

/-- **One character leaves one scan inside the other**, unless one of them ends with it.  The outer
one is not closed then. -/
theorem read (rel : Encloses opened outer inner) {c : Char}
    (reads : openAfter? opened (marks [c]) = some opened') (goes : inner.read c = .more inner') :
    outer.read c = .rejected ∨
      ∃ outer', outer.read c = .more outer' ∧ Encloses opened' outer' inner' := by
  rcases openAfter?_char_cases reads with ⟨b, rfl, rfl⟩ | ⟨b, rfl, rfl⟩ | ⟨other, rfl⟩
  · by_cases curly : b = .curly
    · subst curly
      exact .inr (rel.read_opening_brace goes)
    · exact .inr (rel.read_opening_group curly goes)
  · by_cases curly : b = .curly
    · subst curly
      exact rel.read_closing_brace goes
    · exact .inr (rel.read_closing_group curly goes)
  · exact rel.read_other other goes

theorem readAll (rel : Encloses opened outer inner) {s : List Char}
    (reads : openAfter? opened (marks s) = some opened') (goes : inner.readAll s = .more inner') :
    outer.readAll s = .rejected ∨
      ∃ outer', outer.readAll s = .more outer' ∧ Encloses opened' outer' inner' := by
  induction s generalizing opened outer inner with
  | nil =>
    cases goes
    cases reads
    exact .inr ⟨outer, rfl, rel⟩
  | cons c s ih =>
    have whole : (openAfter? opened (marks ([c] ++ s))).isSome = true := by
      rw [List.singleton_append, reads, Option.isSome_some]
    obtain ⟨between, first, -⟩ := exists_openAfter? whole
    rw [← List.singleton_append, marks_append, openAfter?_append, first, Option.bind_some] at reads
    rw [Phase.readAll] at goes ⊢
    split at goes
    next inner goes_on =>
      rcases rel.read first goes_on with rejected | ⟨outer, more, rel⟩
      · exact .inl (by rw [rejected])
      · rw [more]
        exact ih rel reads goes
    next => cases goes
    next => cases goes

/-- A scan stands to itself as to one that started with it. -/
theorem readAll_self {phase phase' : Phase} (rel : Encloses opened phase phase) {s : List Char}
    (reads : openAfter? opened (marks s) = some opened') (goes : phase.readAll s = .more phase') :
    Encloses opened' phase' phase' := by
  rcases rel.readAll reads goes with rejected | ⟨_, more, rel⟩
  · rw [goes] at rejected
    cases rejected
  · rw [goes] at more
    cases more
    exact rel

/-- A scan that starts now is inside. -/
theorem start (rel : Encloses opened outer inner) : Encloses opened outer (.seeking 0) := by
  cases rel with
  | seeking le => exact .seeking (Nat.zero_le _)
  | inside brace le => exact .within brace (Nat.zero_le _)
  | within brace le => exact .within brace (Nat.zero_le _)
  | among brace lt => exact .seeking (Nat.zero_le _)

end Encloses

/-! ## One block inside another -/

section Lines

variable {tabWidth base : Nat} {opened opened' : List Bracket}

/-- A line leaves one scan inside the other, unless one of them ends on it. -/
theorem Encloses.next {s : Scan} {inner inner' : Phase} {line : Line}
    (rel : Encloses opened s.phase inner) (reads : openAfter? opened (marks line) = some opened')
    (goes : inner.readAll line = .more inner') :
    s.next .naive tabWidth base line = .rejected ∨
      ∃ s', s.next .naive tabWidth base line = .more s' ∧ Encloses opened' s'.phase inner' := by
  have both := rel.readAll reads goes
  rcases Scan.next_cases .naive tabWidth base s line with
    rejected | ⟨-, counted⟩ | ⟨s', next, counted⟩
  · exact .inl rejected
  · rw [Lexer.codeOf_naive] at counted
    rw [counted] at both
    rcases both with rejected | ⟨_, more, -⟩
    · cases rejected
    · cases more
  · rw [Lexer.codeOf_naive] at counted
    rw [counted] at both
    rcases both with rejected | ⟨_, ⟨⟩, rel⟩
    · cases rejected
    · exact .inr ⟨s', next, rel⟩

/-- Of two walks over the same lines the inner one ends first, or with the outer one. -/
theorem Encloses.walk_le {s s' : Scan} {rest : List Line} {base' seen seen' extent extent' : Nat}
    (rel : Encloses opened s.phase s'.phase)
    (reads : (openAfter? opened (marks rest.flatten)).isSome = true)
    (outer : walk .naive tabWidth base seen s rest = some extent)
    (inner : walk .naive tabWidth base' seen' s' rest = some extent') :
    seen + extent' ≤ seen' + extent := by
  induction rest generalizing opened s s' seen seen' with
  | nil =>
    rw [walk] at outer inner
    split at outer
    · split at inner
      · cases outer
        cases inner
        omega
      · cases inner
    · cases outer
  | cons line rest ih =>
    obtain ⟨opened', line_reads, reads⟩ := exists_openAfter? reads
    rw [walk] at inner
    rcases Scan.next_cases .naive tabWidth base' s' line with
      rejected | ⟨closed, -⟩ | ⟨s', next', counted⟩
    · rw [rejected] at inner
      cases inner
    · rw [closed] at inner
      cases inner
      have lt := lt_walk outer
      omega
    · rw [next'] at inner
      rw [Lexer.codeOf_naive] at counted
      rw [walk] at outer
      rcases rel.next line_reads counted with rejected | ⟨s, next, rel⟩
      · rw [rejected] at outer
        cases outer
      · rw [next] at outer
        have later := ih rel reads outer inner
        omega

/-- A walk that gets beyond some lines comes to the line after them. -/
theorem walk_reaches {s : Scan} {between rest : List Line} {seen extent : Nat}
    (rel : Encloses opened s.phase s.phase)
    (reads : (openAfter? opened (marks (between ++ rest).flatten)).isSome = true)
    (found : walk .naive tabWidth base seen s (between ++ rest) = some extent)
    (lt : seen + between.length < extent) :
    ∃ s' opened', Encloses opened' s'.phase s'.phase ∧
      (openAfter? opened' (marks rest.flatten)).isSome = true ∧
      walk .naive tabWidth base (seen + between.length) s' rest = some extent := by
  induction between generalizing opened s seen with
  | nil => exact ⟨s, opened, rel, reads, found⟩
  | cons line between ih =>
    obtain ⟨opened', line_reads, reads⟩ := exists_openAfter? reads
    rw [List.length_cons] at lt ⊢
    rw [List.cons_append, walk] at found
    rcases Scan.next_cases .naive tabWidth base s line with
      rejected | ⟨closed, -⟩ | ⟨s', next, counted⟩
    · rw [rejected] at found
      cases found
    · rw [closed] at found
      cases found
      omega
    · rw [next] at found
      rw [Lexer.codeOf_naive] at counted
      rw [show seen + (between.length + 1) = seen + 1 + between.length by omega] at lt ⊢
      exact ih (rel.readAll_self line_reads counted) reads found lt

end Lines

/-- **A block that starts in a block ends in it**, if no bracket of the text closes another one than
the innermost bracket that is open.  Between the two headers there are the lines `between`. -/
theorem extent?_nested {tabWidth extent extent' : Nat} {front between rest : List Line}
    {header header' : Line}
    (reads : (openAfter? []
      (marks (front ++ header :: (between ++ header' :: rest)).flatten)).isSome = true)
    (outer : extent? .naive tabWidth header (between ++ header' :: rest) = some extent)
    (inner : extent? .naive tabWidth header' rest = some extent') (lt : between.length < extent) :
    between.length + 1 + extent' ≤ extent := by
  rw [List.flatten_append] at reads
  obtain ⟨above, -, reads⟩ := exists_openAfter? reads
  obtain ⟨below, header_reads, reads⟩ := exists_openAfter? reads
  rcases extent?_cases outer with rfl | ⟨s, counted, outer⟩
  · exact absurd lt (Nat.not_lt_zero _)
  rw [Lexer.codeOf_naive] at counted
  have rel : Encloses above (.seeking 0) (.seeking 0) := .seeking (Nat.le_refl 0)
  -- The outer scan comes to the header of the inner block, where the inner scan starts.
  obtain ⟨s, above, rel, reads, outer⟩ := walk_reaches (rel.readAll_self header_reads counted)
    reads outer (by omega)
  obtain ⟨below, header_reads, reads⟩ := exists_openAfter? reads
  rcases extent?_cases inner with rfl | ⟨s', counted, inner⟩
  · exact lt
  rw [Lexer.codeOf_naive] at counted
  rw [walk] at outer
  rcases rel.start.next header_reads counted with rejected | ⟨s, next, rel⟩
  · rw [rejected] at outer
    cases outer
  · rw [next] at outer
    have le := rel.walk_le reads outer inner
    omega

end Brace

/-! ## Blocks by indentation -/

namespace Indent

variable {tabWidth base base' : Nat}

/-- Of two walks over the same lines the one with the deeper header ends first, or with the other
one.  It has seen `offset` lines less. -/
theorem walk_nested (deeper : base < base') {offset seen held held' : Nat} {rest : List Line}
    (bound : held ≤ offset + seen) (le : offset + held' ≤ held) :
    offset + walk tabWidth base' seen held' rest ≤
      walk tabWidth base (offset + seen) held rest := by
  induction rest generalizing seen held held' with
  | nil => exact le
  | cons line rest ih =>
    rw [walk, walk]
    by_cases blank : Text.isAllBlank line = true
    · rw [if_pos blank, if_pos blank]
      exact ih (Nat.le_succ_of_le bound) le
    · rw [if_neg blank, if_neg blank]
      by_cases inner : base' < line.indent tabWidth
      · rw [if_pos inner, if_pos (Nat.lt_trans deeper inner)]
        exact ih (Nat.le_refl _) (Nat.le_refl _)
      · rw [if_neg inner]
        split
        · have bounds := walk_bounds tabWidth base (Nat.le_refl (offset + seen + 1)) rest
          omega
        · exact le

/-- A walk that gets beyond some lines finds the line after them deeper than its header, and goes on
from there. -/
theorem walk_reaches {between rest : List Line} {line : Line} {seen held : Nat}
    (solid : Text.isAllBlank line = false) (bound : held ≤ seen)
    (lt : seen + between.length < walk tabWidth base seen held (between ++ line :: rest)) :
    base < line.indent tabWidth ∧
      walk tabWidth base seen held (between ++ line :: rest) =
        walk tabWidth base (seen + between.length + 1) (seen + between.length + 1) rest := by
  induction between generalizing seen held with
  | nil =>
    rw [List.nil_append, walk, solid, if_neg Bool.false_ne_true] at lt ⊢
    rw [List.length_nil, Nat.add_zero] at lt ⊢
    split at lt
    next deeper => exact ⟨deeper, if_pos deeper⟩
    next => exact absurd lt (Nat.not_lt.mpr bound)
  | cons first between ih =>
    rw [List.cons_append, walk] at lt ⊢
    rw [List.length_cons, show seen + (between.length + 1) = seen + 1 + between.length by omega]
      at lt ⊢
    split at lt
    next blank =>
      rw [if_pos blank]
      exact ih (Nat.le_succ_of_le bound) lt
    next blank =>
      rw [if_neg blank]
      split at lt
      next deeper =>
        rw [if_pos deeper]
        exact ih (Nat.le_refl _) lt
      next => omega

/-- **A block that starts in a block ends in it.** -/
theorem extent_nested {between rest : List Line} {header header' : Line}
    (solid : Text.isAllBlank header' = false)
    (lt : between.length < extent tabWidth header (between ++ header' :: rest)) :
    between.length + 1 + extent tabWidth header' rest ≤
      extent tabWidth header (between ++ header' :: rest) := by
  have within := lt
  rw [extent, ← Nat.zero_add between.length] at within
  obtain ⟨deeper, goes_on⟩ := walk_reaches solid (Nat.le_refl 0) within
  rw [extent, extent, goes_on, Nat.zero_add]
  exact walk_nested deeper (Nat.le_refl _) (Nat.le_refl _)

end Indent
end Block
end CodeGloss
