import CodeGloss.Proofs.Block.Balance
import Mathlib.Order.Nat

/-!
# The scan finds the brace that balances

The scan carries a lexer, a phase and two flags from line to line.  After some lines these are what
the code of the lines says (`Reached`): the lexer and the phase are those after all of it, and the
flags tell whether some line began while the body was awaited, and whether one of those began with
`where`.

The next line keeps this.  Where it does not, the body has been closed, or there is none: the code
says so, or the line may not come there (`Reached.next`).  So a walk finds a block if and only if the
code of all lines has a body, and it ends the block where the body is closed (`walk_eq_some_iff`).
That is the closed form of the brace matcher (`brace_block_balances`).
-/

namespace CodeGloss
namespace Block
namespace Brace

variable {counting : Counting} {tabWidth base : Nat}

/-! ## What a scan knows -/

/-- Whether the flags of a scan tell of the lines that began while the body was awaited, all of which
were admitted. -/
structure Noted (counting : Counting) (tabWidth base : Nat) (lines : List Line) (s : Scan) :
    Prop where
  continued : s.continued = true ↔ ∃ i line, Awaited counting lines i line
  inWhere : s.inWhere = true ↔
    ∃ i line, Awaited counting lines i line ∧ Scan.startsWhere line = true
  admitted : AllAdmitted counting tabWidth base lines

/-- Whether a scan is the one after some lines. -/
structure Reached (counting : Counting) (tabWidth base : Nat) (lines : List Line) (s : Scan) :
    Prop where
  started : 0 < lines.length
  lexer : s.lexer = Lexer.start.afterLines counting lines
  atRest : s.AtRest
  phase : (Phase.seeking 0).readAll (chars counting lines) = .more s.phase
  noted : Noted counting tabWidth base lines s

/-- What the scan of some lines comes to. -/
def ComesTo (counting : Counting) (tabWidth base : Nat) (lines : List Line) :
    Progress Scan → Prop
  | .more s => Reached counting tabWidth base lines s
  | .closed => (Phase.seeking 0).readAll (chars counting lines) = .closed ∧
      AllAdmitted counting tabWidth base lines
  | .rejected => (Phase.seeking 0).readAll (chars counting lines) = .rejected ∨
      ¬AllAdmitted counting tabWidth base lines

section Step

variable {front : List Line} {line : Line} {s s' : Scan}

/-- A line that does not begin while the body is awaited leaves the flags right. -/
theorem Noted.concat (noted : Noted counting tabWidth base front s)
    (other : ∀ line', ¬Awaited counting (front ++ [line]) front.length line') :
    Noted counting tabWidth base (front ++ [line]) s := by
  have same : ∀ i line', Awaited counting (front ++ [line]) i line' ↔
      Awaited counting front i line' := by
    intro i line'
    refine ⟨fun awaited => ?_, fun awaited => (awaited_append awaited.lt).mpr awaited⟩
    rcases awaited_concat_cases awaited with before | rfl
    · exact before
    · exact absurd awaited (other line')
  refine ⟨?_, ?_, fun i line' awaited => ?_⟩
  · rw [noted.continued]
    exact exists_congr fun i => exists_congr fun line' => (same i line').symm
  · rw [noted.inWhere]
    exact exists_congr fun i => exists_congr fun line' => and_congr_left' (same i line').symm
  · exact (admissible_congr fun j line'' _ => (same j line'').symm).mp
      (noted.admitted i line' ((same i line').mp awaited))

/-- The next line may come there if the flags say so. -/
theorem Noted.admissible_iff (noted : Noted counting tabWidth base front s) (line : Line) :
    Admissible tabWidth base (Awaited counting (front ++ [line])) front.length line ↔
      Scan.startsWhere line = true ∨
        Scan.isShallow tabWidth base line = false ∧ (s.continued = false ∨ s.inWhere = true) := by
  have deep : (base < line.indent tabWidth ∨ (Text.trimStart line).head? = some '{') ↔
      Scan.isShallow tabWidth base line = false := by
    simp only [Scan.isShallow, Bool.and_eq_false_iff, decide_eq_false_iff_not, Nat.not_le,
      bne_eq_false_iff_eq]
  have first : (∀ j line', Awaited counting front j line' → ¬j < front.length) ↔
      s.continued = false := by
    rw [← Bool.not_eq_true, noted.continued]
    exact ⟨fun none ⟨j, line', awaited⟩ => none j line' awaited awaited.lt,
      fun none j line' awaited => absurd ⟨j, line', awaited⟩ none⟩
  have wheres : (∃ j line', Awaited counting front j line' ∧ j < front.length ∧
      Scan.startsWhere line' = true) ↔ s.inWhere = true := by
    rw [noted.inWhere]
    exact exists_congr fun j => exists_congr fun line' =>
      ⟨fun ⟨awaited, _, word⟩ => ⟨awaited, word⟩, fun ⟨awaited, word⟩ => ⟨awaited, awaited.lt, word⟩⟩
  have before : Admissible tabWidth base (Awaited counting (front ++ [line])) front.length line ↔
      Admissible tabWidth base (Awaited counting front) front.length line :=
    admissible_congr fun j line' lt => awaited_append lt
  rw [before, Admissible, deep, first, wheres]

/-- A scan has noted a line that may come there if it has been continued and knows of a `where`. -/
theorem Noted.admit (noted : Noted counting tabWidth base front s)
    (awaited : Awaited counting (front ++ [line]) front.length line)
    (admissible : Admissible tabWidth base (Awaited counting (front ++ [line])) front.length line)
    (continued : s'.continued = true)
    (inWhere : s'.inWhere = true ↔ s.inWhere = true ∨ Scan.startsWhere line = true) :
    Noted counting tabWidth base (front ++ [line]) s' := by
  refine ⟨iff_of_true continued ⟨front.length, line, awaited⟩, ?_, ?_⟩
  · rw [inWhere, noted.inWhere]
    constructor
    · rintro (⟨i, line', before, word⟩ | word)
      · exact ⟨i, line', (awaited_append before.lt).mpr before, word⟩
      · exact ⟨front.length, line, awaited, word⟩
    · rintro ⟨i, line', awaited', word⟩
      rcases awaited_concat_cases awaited' with before | rfl
      · exact .inl ⟨i, line', before, word⟩
      · obtain ⟨rfl, -⟩ := awaited_concat.mp awaited'
        exact .inr word
  · intro i line' awaited'
    rcases awaited_concat_cases awaited' with before | rfl
    · refine (admissible_congr fun j line'' less => ?_).mp (noted.admitted i line' before)
      exact (awaited_append (Nat.lt_trans less before.lt)).symm
    · obtain ⟨rfl, -⟩ := awaited_concat.mp awaited'
      exact admissible

/-- **A line that begins while the body is awaited** is admitted and noted if it may come there, and
turned down if it may not. -/
theorem Noted.goesOn? (noted : Noted counting tabWidth base front s)
    (awaited : Awaited counting (front ++ [line]) front.length line) :
    match s.goesOn? tabWidth base line with
    | some s' => Noted counting tabWidth base (front ++ [line]) s'
    | none => ¬AllAdmitted counting tabWidth base (front ++ [line]) := by
  have may := noted.admissible_iff line
  unfold Scan.goesOn?
  by_cases word : Scan.startsWhere line = true
  · rw [if_pos word]
    exact noted.admit awaited (may.mpr (.inl word)) rfl (by simp [word])
  · rw [if_neg word]
    by_cases down : (Scan.isShallow tabWidth base line || (s.continued && !s.inWhere)) = true
    · rw [if_pos down]
      intro admitted
      have admissible := may.mp (admitted front.length line awaited)
      rw [Bool.or_eq_true, Bool.and_eq_true, Bool.not_eq_true'] at down
      rcases admissible with word' | ⟨deep, first | inWhere⟩
      · exact word word'
      · simp [deep, first] at down
      · simp [deep, inWhere] at down
    · rw [if_neg down]
      rw [Bool.not_eq_true, Bool.or_eq_false_iff, Bool.and_eq_false_iff, Bool.not_eq_false'] at down
      exact noted.admit awaited (may.mpr (.inr down)) rfl (by simp [word])

/-- Reading a line, once it has been noted. -/
theorem Noted.read (noted : Noted counting tabWidth base (front ++ [line]) s)
    (lexer : s.lexer = Lexer.start.afterLines counting front)
    (phase : (Phase.seeking 0).readAll (chars counting front) = .more s.phase) :
    ComesTo counting tabWidth base (front ++ [line]) (s.read counting line) := by
  have counted : (Phase.seeking 0).readAll (chars counting (front ++ [line])) =
      s.phase.readAll (s.lexer.codeOf counting line) := by
    rw [chars_concat, Phase.readAll_append, phase, lexer]
  have rest : ∀ s', s.read counting line = .more s' → s'.AtRest := fun s' => Scan.atRest_of_read
  rw [Scan.read_eq] at rest ⊢
  cases read : s.phase.readAll (s.lexer.codeOf counting line) with
  | more phase' =>
    rw [read] at rest
    refine ⟨by simp, ?_, rest _ rfl, counted.trans read, ?_⟩
    · rw [Lexer.afterLines_concat, ← lexer]
    · exact ⟨noted.continued, noted.inWhere, noted.admitted⟩
  | closed => exact ⟨counted.trans read, noted.admitted⟩
  | rejected => exact .inl (counted.trans read)

/-- A blank line that is passed over leaves the scan as it is, and so would reading it. -/
theorem Reached.pass (reached : Reached counting tabWidth base front s)
    (awaits : s.awaitsBody = true) (blank : Text.isAllBlank line = true) :
    Reached counting tabWidth base (front ++ [line]) s := by
  rw [Scan.awaitsBody, Bool.and_eq_true, Bool.not_eq_true'] at awaits
  have stays : s.lexer.afterLine counting line = s.lexer :=
    Lexer.afterLine_eq_self reached.atRest awaits.2 blank
  refine ⟨by simp, ?_, reached.atRest, ?_, reached.noted.concat fun line' awaited => ?_⟩
  · rw [Lexer.afterLines_concat, ← reached.lexer, stays]
  · rw [chars_concat, Phase.readAll_append, reached.phase]
    rw [Text.isAllBlank, List.all_eq_true] at blank
    exact Phase.readAll_of_isBlank
      (fun c mem => blank c (Lexer.codeOf_subset counting _ line mem)) s.phase
  · obtain ⟨-, -, solid, -⟩ := awaited_concat.mp awaited
    rw [blank] at solid
    cases solid

/-- **Line by line** a scan knows what the code of the lines says. -/
theorem Reached.next (reached : Reached counting tabWidth base front s) (line : Line) :
    ComesTo counting tabWidth base (front ++ [line]) (s.next counting tabWidth base line) := by
  have awaits : s.awaitsBody = true ↔
      (Phase.seeking 0).readAll (chars counting front) = .more (.seeking 0) ∧
        (Lexer.start.afterLines counting front).inLiteral = false := by
    rw [reached.phase, ← reached.lexer, Scan.awaitsBody, Bool.and_eq_true, beq_iff_eq,
      Bool.not_eq_true', Progress.more.injEq]
  unfold Scan.next
  split
  next awaiting =>
    split
    next blank => exact reached.pass awaiting blank
    next solid =>
      have awaited : Awaited counting (front ++ [line]) front.length line :=
        awaited_concat.mpr ⟨rfl, reached.started, by simpa using solid, awaits.mp awaiting⟩
      have noted := reached.noted.goesOn? awaited
      split
      next s' goes =>
        rw [goes] at noted
        obtain ⟨lexer, phase⟩ := Scan.of_goesOn? goes
        exact noted.read (lexer.trans reached.lexer) (phase ▸ reached.phase)
      next goes =>
        rw [goes] at noted
        exact .inr noted
  next other =>
    refine (reached.noted.concat fun line' awaited => other ?_).read reached.lexer reached.phase
    obtain ⟨-, -, -, seeks, plain⟩ := awaited_concat.mp awaited
    exact awaits.mpr ⟨seeks, plain⟩

/-- The header is the first line. -/
theorem comesTo_header (header : Line) :
    ComesTo counting tabWidth base [header] (Scan.start.read counting header) := by
  have none : ∀ i line, ¬Awaited counting ([] ++ [header]) i line := by
    intro i line awaited
    rcases awaited_concat_cases awaited with before | rfl
    · exact absurd before.lt (Nat.not_lt_zero i)
    · exact absurd awaited.after (Nat.lt_irrefl 0)
  show ComesTo counting tabWidth base ([] ++ [header]) _
  refine Noted.read ⟨?_, ?_, ?_⟩ rfl rfl
  · exact iff_of_false Bool.false_ne_true fun ⟨i, line, awaited⟩ => none i line awaited
  · exact iff_of_false Bool.false_ne_true fun ⟨i, line, awaited, _⟩ => none i line awaited
  · exact fun i line awaited => absurd awaited (none i line)

end Step

/-! ## Walks -/

section Walk

variable {lines front rest : List Line} {line : Line} {s : Scan} {p q seen last : Nat}

theorem endsOn_iff_of_closesAt {spot : Lexer.Spot} (closes : ClosesAt (chars counting lines) p q)
    (here : (spots counting lines)[q]? = some spot) :
    EndsOn counting lines p last ↔ last = spot.line := by
  constructor
  · rintro (⟨q', spot', closes', here', rfl⟩ | ⟨unclosed, -⟩)
    · obtain rfl := closes.unique closes'
      rw [here, Option.some.injEq] at here'
      rw [here']
    · exact absurd closes.1 (unclosed q)
  · exact fun eq => .inl ⟨q, spot, closes, here, eq⟩

theorem endsOn_iff_of_unclosed (unclosed : ∀ q, ¬EvenFrom (chars counting lines) p q) :
    EndsOn counting lines p last ↔ last + 1 = lines.length := by
  constructor
  · rintro (⟨q, spot, closes, -⟩ | ⟨-, eq⟩)
    · exact absurd closes.1 (unclosed q)
    · exact eq
  · exact fun eq => .inr ⟨unclosed, eq⟩

/-- A body that is closed by a line, and not by the lines before, ends the block on that line. -/
theorem endsOn_of_closed {phase : Phase}
    (open_ : (Phase.seeking 0).readAll (chars counting front) = .more phase)
    (closed : (Phase.seeking 0).readAll (chars counting (front ++ [line])) = .closed)
    (rest : List Line) :
    ∃ p, Declares (chars counting (front ++ line :: rest)) p ∧
      ∀ last, EndsOn counting (front ++ line :: rest) p last ↔ last = front.length := by
  obtain ⟨p, q, declares, closes⟩ := closesAt_of_closed closed
  have whole : front ++ line :: rest = (front ++ [line]) ++ rest := by simp
  have inside := closes.1.2.1
  have beyond : (chars counting front).length ≤ q := by
    by_contra lt
    rw [chars_concat] at declares closes
    have before := declares.of_append (Nat.lt_trans closes.1.1 (Nat.lt_of_not_le lt))
    exact not_evenFrom_of_more open_ before q ((evenFrom_append (Nat.lt_of_not_le lt)).mp closes.1)
  obtain ⟨t, all⟩ :
      chars counting (front ++ [line]) <+: chars counting (front ++ line :: rest) := by
    rw [whole, chars_append (front ++ [line])]
    exact List.prefix_append _ _
  rw [← all]
  refine ⟨p, declares.append t, fun last => ?_⟩
  have closesThere := closes.append t
  rw [all] at closesThere
  obtain ⟨spot, here⟩ := exists_spot closesThere.1.2.1
  rw [endsOn_iff_of_closesAt closesThere here]
  have lower := line_lt_iff here front.length
  have upper := line_lt_iff here (front.length + 1)
  have takeFront : (front ++ line :: rest).take front.length = front := List.take_left
  have takeLine : (front ++ line :: rest).take (front.length + 1) = front ++ [line] := by
    rw [whole, List.take_left' (by simp)]
  rw [takeFront] at lower
  rw [takeLine] at upper
  have line_eq : spot.line = front.length := by omega
  rw [line_eq]

/-- Where the scan of some lines ends with the last of them, so does the block. -/
theorem endsOn_iff_of_comesTo_closed {phase : Phase}
    (open_ : (Phase.seeking 0).readAll (chars counting front) = .more phase)
    (comes : ComesTo counting tabWidth base (front ++ [line]) .closed) (rest : List Line)
    (last : Nat) :
    (∃ p, Declares (chars counting (front ++ line :: rest)) p ∧
        AllAdmitted counting tabWidth base (front ++ line :: rest) ∧
        EndsOn counting (front ++ line :: rest) p last) ↔
      last = front.length := by
  obtain ⟨closed, admitted⟩ := comes
  obtain ⟨p, declares, ends⟩ := endsOn_of_closed open_ closed rest
  constructor
  · rintro ⟨p', declares', -, ends'⟩
    obtain rfl := declares.1.unique declares'.1
    exact (ends last).mp ends'
  · intro here
    have all := admitted.append closed rest
    rw [List.append_assoc] at all
    exact ⟨p, declares, all, (ends last).mpr here⟩

/-- Where some lines are turned down, there is no body whatever follows. -/
theorem not_declares_of_comesTo_rejected (comes : ComesTo counting tabWidth base front .rejected)
    (rest : List Line) (p : Nat) (admitted : AllAdmitted counting tabWidth base (front ++ rest)) :
    ¬Declares (chars counting (front ++ rest)) p := by
  intro declares
  rcases comes with rejected | turnedDown
  · rw [chars_append] at declares
    exact not_declares_of_rejected rejected _ p declares
  · exact turnedDown admitted.of_append

/-- **A walk finds the block if there is a body**, and ends it where the body is closed. -/
theorem walk_eq_some_iff (reached : Reached counting tabWidth base front s)
    (length : front.length = seen + 1) :
    walk counting tabWidth base seen s rest = some last ↔
      ∃ p, Declares (chars counting (front ++ rest)) p ∧
        AllAdmitted counting tabWidth base (front ++ rest) ∧
        EndsOn counting (front ++ rest) p last := by
  induction rest generalizing front s seen with
  | nil =>
    rw [walk, List.append_nil]
    have read := reached.phase
    cases phase : s.phase with
    | seeking n =>
      rw [phase] at read
      refine iff_of_false (by simp [Phase.isOpen]) ?_
      rintro ⟨p, declares, -⟩
      exact not_declares_of_seeking read p declares
    | inside inner =>
      rw [phase] at read
      obtain ⟨p, declares, unclosed⟩ := declares_of_inside read
      rw [Phase.isOpen, if_pos rfl, Option.some.injEq]
      constructor
      · rintro rfl
        exact ⟨p, declares, reached.noted.admitted,
          (endsOn_iff_of_unclosed unclosed).mpr length.symm⟩
      · rintro ⟨p', declares', -, ends⟩
        obtain rfl := declares.1.unique declares'.1
        have eq := (endsOn_iff_of_unclosed unclosed).mp ends
        omega
  | cons line rest ih =>
    have comes := reached.next line
    have whole : front ++ line :: rest = (front ++ [line]) ++ rest := by simp
    rw [walk]
    cases next : s.next counting tabWidth base line with
    | more s' =>
      rw [next] at comes
      rw [whole]
      exact ih comes (by simp [length])
    | closed =>
      rw [next] at comes
      rw [endsOn_iff_of_comesTo_closed reached.phase comes, length, Option.some.injEq, eq_comm]
    | rejected =>
      rw [next] at comes
      refine iff_of_false (by simp) ?_
      rintro ⟨p, declares, admitted, -⟩
      rw [whole] at declares admitted
      exact not_declares_of_comesTo_rejected comes rest p admitted declares

theorem extent?_eq_some_iff (header : Line) (rest : List Line) :
    extent? counting tabWidth header rest = some last ↔
      ∃ p, HasBody counting tabWidth (header :: rest) p ∧
        EndsOn counting (header :: rest) p last := by
  have body : ∀ p, (HasBody counting tabWidth (header :: rest) p ∧
      EndsOn counting (header :: rest) p last) ↔
        Declares (chars counting (header :: rest)) p ∧
          AllAdmitted counting tabWidth (header.indent tabWidth) (header :: rest) ∧
          EndsOn counting (header :: rest) p last := by
    intro p
    rw [hasBody_iff, and_assoc]
    rfl
  rw [exists_congr body, extent?]
  have comes : ComesTo counting tabWidth (header.indent tabWidth) [header]
      (Scan.start.read counting header) := comesTo_header header
  cases read : Scan.start.read counting header with
  | more s =>
    rw [read] at comes
    exact walk_eq_some_iff comes rfl
  | closed =>
    rw [read] at comes
    have first : ComesTo counting tabWidth (header.indent tabWidth) ([] ++ [header]) .closed := comes
    have ends := endsOn_iff_of_comesTo_closed rfl first rest last
    rw [Option.some.injEq, eq_comm]
    exact ends.symm
  | rejected =>
    rw [read] at comes
    refine iff_of_false (by simp) ?_
    rintro ⟨p, declares, admitted, -⟩
    exact not_declares_of_comesTo_rejected comes rest p admitted declares

/-- A block has an end if the code declares a body. -/
theorem exists_endsOn (declares : Declares (chars counting lines) p) :
    ∃ last, EndsOn counting lines p last := by
  by_cases even : ∃ q, EvenFrom (chars counting lines) p q
  · obtain ⟨q, closes⟩ : ∃ q, ClosesAt (chars counting lines) p q := by
      classical
      exact ⟨_, Nat.isLeast_find even⟩
    obtain ⟨spot, here⟩ := exists_spot closes.1.2.1
    exact ⟨spot.line, (endsOn_iff_of_closesAt closes here).mpr rfl⟩
  · have nonempty : 0 < lines.length := by
      rw [List.length_pos_iff]
      rintro rfl
      exact absurd declares.1.lt (Nat.not_lt_zero p)
    refine ⟨lines.length - 1, (endsOn_iff_of_unclosed (not_exists.mp even)).mpr ?_⟩
    omega

end Walk

end Brace

/-! ## Blocks among the lines of a text -/

open Brace in
/-- **The block of a header ends where its braces balance.**  There is a block by braces if and only
if the code from the header on has a body: a brace opens it outside parentheses and brackets, with no
semicolon and no closing brace outside them before, and the lines between may come there.  The block
ends on the line of the first character at which as many braces have been closed as were opened since
then, or on the last line if there is no such character. -/
theorem brace_block_balances (options : Options) (lines : List Line) (start : Nat) :
    ((endOf? options .brace lines start).isSome = true ↔
        ∃ p, HasBody options.counting options.tabWidth (lines.drop start) p) ∧
      ∀ last, endOf? options .brace lines start = some last ↔
        ∃ p after, HasBody options.counting options.tabWidth (lines.drop start) p ∧
          EndsOn options.counting (lines.drop start) p after ∧ last = start + after := by
  have ends : ∀ last, endOf? options .brace lines start = some last ↔
      ∃ p after, HasBody options.counting options.tabWidth (lines.drop start) p ∧
        EndsOn options.counting (lines.drop start) p after ∧ last = start + after := by
    intro last
    rw [endOf?]
    cases lines.drop start with
    | nil =>
      refine iff_of_false (by simp) ?_
      rintro ⟨p, after, ⟨declares, -⟩, -⟩
      exact absurd declares.1.lt (Nat.not_lt_zero p)
    | cons header rest =>
      rw [Option.map_eq_some_iff]
      constructor
      · rintro ⟨after, found, rfl⟩
        obtain ⟨p, body, ends⟩ := (extent?_eq_some_iff header rest).mp found
        exact ⟨p, after, body, ends, rfl⟩
      · rintro ⟨p, after, body, ends, rfl⟩
        exact ⟨after, (extent?_eq_some_iff header rest).mpr ⟨p, body, ends⟩, rfl⟩
  refine ⟨?_, ends⟩
  rw [Option.isSome_iff_exists]
  constructor
  · rintro ⟨last, found⟩
    obtain ⟨p, after, body, -⟩ := (ends last).mp found
    exact ⟨p, body⟩
  · rintro ⟨p, body⟩
    obtain ⟨after, endsOn⟩ := exists_endsOn body.declares
    exact ⟨start + after, (ends _).mpr ⟨p, after, body, endsOn, rfl⟩⟩

end Block
end CodeGloss
