import CodeGloss.Block.Extent
import CodeGloss.Proofs.Text.Lines
import CodeGloss.Text.Search
import Mathlib.Data.List.Basic

/-!
# Ends of blocks by positions

The search for the end of a block is written here once more as one goes about it with positions and
counters: lines are looked up by their numbers, the rest of a line is cut off at a byte, the depth
of braces is one number that goes up and down.  Each of these may fail, where there is no such line,
where no character starts at the byte, and where the number would drop below zero.

None of them does (`Positional.blockEnd?_eq`).  A depth is what is inside an open body and one more
(`Counters.ofScan`), so it is never zero where a brace is closed; and a character that was read ends
where the next one starts.
-/

namespace CodeGloss
namespace Block
namespace Positional

/-! ## What may fail -/

/-- A difference, if it is a number. -/
def minus? (a b : Nat) : Option Nat :=
  if b ≤ a then some (a - b) else none

/-- What is left of a text from a byte on, if a character starts there or the text ends there. -/
def fromByte? : Nat → List Char → Option (List Char)
  | 0, s => some s
  | _ + 1, [] => none
  | n + 1, c :: s => (minus? (n + 1) c.utf8Size).bind (fromByte? · s)

/-- The characters of a text that starts at a byte, each with the byte at which it starts. -/
def charsAt (offset : Nat) : List Char → List (Nat × Char)
  | [] => []
  | c :: s => (offset, c) :: charsAt (offset + c.utf8Size) s

theorem minus?_of_le {a b : Nat} (le : b ≤ a) : minus? a b = some (a - b) :=
  if_pos le

/-- A text may be cut after each of its characters. -/
theorem fromByte?_byteLength (front back : List Char) :
    fromByte? (Text.byteLength front) (front ++ back) = some back := by
  induction front with
  | nil => cases back <;> rfl
  | cons c front ih =>
    have size := c.utf8Size_pos
    obtain ⟨n, eq⟩ : ∃ n, Text.byteLength (c :: front) = n + 1 :=
      ⟨Text.byteLength (c :: front) - 1, by rw [Text.byteLength]; omega⟩
    have length : n + 1 = c.utf8Size + Text.byteLength front := eq.symm
    rw [eq, List.cons_append, fromByte?, minus?_of_le (by omega), Option.bind_some, length,
      Nat.add_sub_cancel_left, ih]

/-! ## Braces -/

/-- What is carried from character to character. -/
structure Counters where
  /-- Whether a literal or a comment is open. -/
  lexer : Lexer
  /-- How many parentheses and brackets are open before the body. -/
  nesting : Nat
  /-- How many braces of the body are open. -/
  depth : Nat
  /-- Whether the body was opened. -/
  opened : Bool
  /-- Whether a line after the header was admitted before the body. -/
  continued : Bool
  /-- Whether one of those lines began with `where`. -/
  inWhere : Bool

/-- Reads one character of code.  The nesting stays at zero where more is closed than was opened,
and the depth is not allowed to. -/
def Counters.read (k : Counters) (c : Char) : Option (Brace.Progress Counters) :=
  if k.opened then
    if c == '{' then some (.more { k with depth := k.depth + 1 })
    else if c == '}' then
      (minus? k.depth 1).map fun depth => if depth == 0 then .closed else .more { k with depth }
    else some (.more k)
  else if c == '(' || c == '[' then some (.more { k with nesting := k.nesting + 1 })
  else if c == ')' || c == ']' then some (.more { k with nesting := k.nesting - 1 })
  else if c == '{' && k.nesting == 0 then some (.more { k with opened := true, depth := 1 })
  else if (c == ';' || c == '}') && k.nesting == 0 then some .rejected
  else some (.more k)

/-- Reads the characters of a line, each with the rest of the line after it. -/
def readChars (counting : Counting) (line : Line) :
    Counters → List (Nat × Char) → Option (Brace.Progress Counters)
  | k, [] => some (.more { k with lexer := k.lexer.endLine })
  | k, (offset, c) :: others =>
    match fromByte? (offset + c.utf8Size) line with
    | none => none
    | some rest =>
      let (lexer, isCode) := k.lexer.read counting c rest
      if isCode then
        match { k with lexer }.read c with
        | none => none
        | some (.more k) => readChars counting line k others
        | some .closed => some .closed
        | some .rejected => some .rejected
      else readChars counting line { k with lexer } others

/-- Reads the line at the position `index`, when the header is the one at `start`. -/
def Counters.next (options : Options) (base start index : Nat) (k : Counters) (line : Line) :
    Option (Brace.Progress Counters) :=
  let read := fun k => readChars options.counting line k (charsAt 0 line)
  if !k.opened && k.nesting == 0 && decide (start < index) && !k.lexer.inLiteral then
    if Text.isAllBlank line then some (.more k)
    else if Brace.Scan.startsWhere line then read { k with inWhere := true, continued := true }
    else if Brace.Scan.isShallow options.tabWidth base line || (k.continued && !k.inWhere) then
      some .rejected
    else read { k with continued := true }
  else read k

/-- Goes through the lines from the position `index` on.  A body that stays open ends with the last
of all `count` lines. -/
def braceLines (options : Options) (count base start : Nat) :
    Nat → Counters → List Line → Option (Option Nat)
  | _, k, [] => if k.opened then (minus? count 1).map some else some none
  | index, k, line :: rest =>
    match k.next options base start index line with
    | none => none
    | some (.more k) => braceLines options count base start (index + 1) k rest
    | some .closed => some (some index)
    | some .rejected => some none

/-- The position of the last line of the block in braces that starts at `start`, or `none` inside if
there is no block. -/
def braceEnd? (options : Options) (lines : List Line) (start : Nat) : Option (Option Nat) :=
  lines[start]?.bind fun header =>
    braceLines options lines.length (header.indent options.tabWidth) start start
      ⟨.start, 0, 0, false, false, false⟩ (lines.drop start)

/-! ## Indentation -/

/-- Goes through the lines from the position `index` on, when the last line that belongs to the
block for sure is the one at `committed`. -/
def indentLines (tabWidth base : Nat) : Nat → Nat → List Line → Nat
  | _, committed, [] => committed
  | index, committed, line :: rest =>
    if Text.isAllBlank line then indentLines tabWidth base (index + 1) committed rest
    else if base < line.indent tabWidth then indentLines tabWidth base (index + 1) index rest
    else committed

/-- The position of the last line of the indented block that starts at `start`. -/
def indentEnd? (tabWidth : Nat) (lines : List Line) (start : Nat) : Option Nat :=
  lines[start]?.map fun header =>
    indentLines tabWidth (header.indent tabWidth) (start + 1) start (lines.drop (start + 1))

/-- The position of the last line of the block that starts at `start`, or `none` inside if there is
no block. -/
def blockEnd? (options : Options) (style : Style) (lines : List Line) (start : Nat) :
    Option (Option Nat) :=
  match style with
  | .indent => (indentEnd? options.tabWidth lines start).map some
  | .brace => braceEnd? options lines start

/-! ## None of it fails -/

/-- What is read with other things carried along. -/
def carry {α β : Type} (f : α → β) : Brace.Progress α → Brace.Progress β
  | .more a => .more (f a)
  | .closed => .closed
  | .rejected => .rejected

/-- The counters for a scan.  An open body counts as one brace more than are open inside it. -/
def Counters.ofScan (s : Brace.Scan) : Counters :=
  match s.phase with
  | .seeking nesting => ⟨s.lexer, nesting, 0, false, s.continued, s.inWhere⟩
  | .inside inner => ⟨s.lexer, 0, inner + 1, true, s.continued, s.inWhere⟩

section Scan

variable (s : Brace.Scan)

@[simp] theorem lexer_ofScan : (Counters.ofScan s).lexer = s.lexer := by
  unfold Counters.ofScan
  split <;> rfl

@[simp] theorem continued_ofScan : (Counters.ofScan s).continued = s.continued := by
  unfold Counters.ofScan
  split <;> rfl

@[simp] theorem inWhere_ofScan : (Counters.ofScan s).inWhere = s.inWhere := by
  unfold Counters.ofScan
  split <;> rfl

@[simp] theorem opened_ofScan : (Counters.ofScan s).opened = s.phase.isOpen := by
  obtain ⟨lexer, phase, continued, inWhere⟩ := s
  cases phase <;> rfl

theorem seeks_ofScan : (!(Counters.ofScan s).opened && (Counters.ofScan s).nesting == 0) =
    (s.phase == .seeking 0) := by
  obtain ⟨lexer, phase, continued, inWhere⟩ := s
  cases phase with
  | seeking nesting => cases nesting <;> rfl
  | inside inner => rfl

theorem ofScan_lexer (lexer : Lexer) :
    Counters.ofScan { s with lexer } = { Counters.ofScan s with lexer } := by
  obtain ⟨_, phase, continued, inWhere⟩ := s
  cases phase <;> rfl

theorem ofScan_continued :
    Counters.ofScan { s with continued := true } =
      { Counters.ofScan s with continued := true } := by
  obtain ⟨_, phase, continued, inWhere⟩ := s
  cases phase <;> rfl

theorem ofScan_inWhere :
    Counters.ofScan { s with inWhere := true, continued := true } =
      { Counters.ofScan s with inWhere := true, continued := true } := by
  obtain ⟨_, phase, continued, inWhere⟩ := s
  cases phase <;> rfl

/-- One character of code does to the counters what it does to the phase. -/
theorem read_ofScan (c : Char) :
    (Counters.ofScan s).read c =
      some (carry (fun phase => Counters.ofScan { s with phase }) (s.phase.read c)) := by
  obtain ⟨lexer, phase, continued, inWhere⟩ := s
  cases phase with
  | seeking nesting =>
    show Counters.read ⟨lexer, nesting, 0, false, continued, inWhere⟩ c = _
    simp only [Counters.read, Brace.Phase.read, Bool.false_eq_true, if_false]
    by_cases opens : (c == '(' || c == '[') = true
    · rw [if_pos opens, if_pos opens]
      rfl
    · rw [if_neg opens, if_neg opens]
      by_cases closes : (c == ')' || c == ']') = true
      · rw [if_pos closes, if_pos closes]
        rfl
      · rw [if_neg closes, if_neg closes]
        by_cases body : (c == '{' && nesting == 0) = true
        · rw [if_pos body, if_pos body]
          obtain ⟨-, none_⟩ := Bool.and_eq_true_iff.mp body
          rw [beq_iff_eq] at none_
          rw [none_]
          rfl
        · rw [if_neg body, if_neg body]
          split <;> rfl
  | inside inner =>
    show Counters.read ⟨lexer, 0, inner + 1, true, continued, inWhere⟩ c = _
    simp only [Counters.read, Brace.Phase.read, if_true]
    split
    · rfl
    · split
      · -- The brace that is closed was counted.
        rw [minus?_of_le (Nat.le_add_left 1 inner)]
        cases inner <;> rfl
      · rfl

end Scan

/-- A line is read by positions as it is read character by character. -/
theorem readChars_eq (counting : Counting) (front back : List Char) (s : Brace.Scan) :
    readChars counting (front ++ back) (Counters.ofScan s) (charsAt (Text.byteLength front) back) =
      some (carry (fun p => Counters.ofScan { s with lexer := p.1, phase := p.2 })
        (Brace.readLine counting s.lexer s.phase back)) := by
  induction back generalizing front s with
  | nil =>
    simp only [charsAt, readChars, Brace.readLine, carry, lexer_ofScan, ofScan_lexer]
  | cons c rest ih =>
    have next : Text.byteLength front + c.utf8Size = Text.byteLength (front ++ [c]) := by
      rw [Text.byteLength_append]
      rfl
    have line : front ++ c :: rest = (front ++ [c]) ++ rest := by
      rw [List.append_assoc, List.singleton_append]
    rw [charsAt, readChars, Brace.readLine, next, line, fromByte?_byteLength]
    simp only [lexer_ofScan]
    generalize s.lexer.read counting c rest = reading
    obtain ⟨lexer, isCode⟩ := reading
    simp only
    rw [← ofScan_lexer]
    cases isCode with
    | false => exact ih (front ++ [c]) { s with lexer }
    | true =>
      simp only [if_true, read_ofScan]
      cases s.phase.read c with
      | more phase => exact ih (front ++ [c]) { s with lexer, phase }
      | closed => rfl
      | rejected => rfl

theorem readChars_line (counting : Counting) (line : Line) (s : Brace.Scan) :
    readChars counting line (Counters.ofScan s) (charsAt 0 line) =
      some (carry Counters.ofScan (s.read counting line)) := by
  have whole := readChars_eq counting [] line s
  rw [List.nil_append, Text.byteLength_nil] at whole
  rw [whole, Brace.Scan.read]
  cases Brace.readLine counting s.lexer s.phase line <;> rfl

/-- The header is read from its start. -/
theorem next_header (options : Options) (base start : Nat) (s : Brace.Scan) (line : Line) :
    (Counters.ofScan s).next options base start start line =
      some (carry Counters.ofScan (s.read options.counting line)) := by
  simp only [Counters.next, Nat.lt_irrefl, decide_false, Bool.and_false, Bool.false_and,
    Bool.false_eq_true, if_false, readChars_line]

/-- A line after the header is read as the scan reads it. -/
theorem next_eq (options : Options) (base : Nat) {start index : Nat} (after : start < index)
    (s : Brace.Scan) (line : Line) :
    (Counters.ofScan s).next options base start index line =
      some (carry Counters.ofScan
        (s.next options.counting options.tabWidth base line)) := by
  have awaits : (!(Counters.ofScan s).opened && (Counters.ofScan s).nesting == 0 &&
      decide (start < index) && !(Counters.ofScan s).lexer.inLiteral) = s.awaitsBody := by
    rw [seeks_ofScan, decide_eq_true after, Bool.and_true, lexer_ofScan, Brace.Scan.awaitsBody]
  have refuses : (Brace.Scan.isShallow options.tabWidth base line ||
      ((Counters.ofScan s).continued && !(Counters.ofScan s).inWhere)) =
        (Brace.Scan.isShallow options.tabWidth base line || (s.continued && !s.inWhere)) := by
    rw [continued_ofScan, inWhere_ofScan]
  have admitted := readChars_line options.counting line { s with continued := true }
  have in_where :=
    readChars_line options.counting line { s with inWhere := true, continued := true }
  rw [ofScan_continued] at admitted
  rw [ofScan_inWhere] at in_where
  simp only [Counters.next, Brace.Scan.next, Brace.Scan.goesOn?, awaits, refuses]
  split
  · split
    · rfl
    · split
      · exact in_where
      · split
        · rfl
        · exact admitted
  · exact readChars_line options.counting line s

theorem braceLines_eq (options : Options) (base start seen : Nat) (s : Brace.Scan)
    (rest : List Line) :
    braceLines options (start + 1 + seen + rest.length) base start (start + 1 + seen)
        (Counters.ofScan s) rest =
      some ((Brace.walk options.counting options.tabWidth base seen s rest).map (start + ·)) := by
  induction rest generalizing seen s with
  | nil =>
    simp only [braceLines, Brace.walk, opened_ofScan]
    split
    · rw [List.length_nil, minus?_of_le (by omega), Option.map_some, Option.map_some]
      congr 2
      omega
    · rfl
  | cons line rest ih =>
    rw [braceLines, Brace.walk, next_eq options base (by omega)]
    cases s.next options.counting options.tabWidth base line with
    | more s =>
      have later := ih (seen + 1) s
      simp only [carry]
      rw [List.length_cons, show start + 1 + seen + (rest.length + 1) =
        start + 1 + (seen + 1) + rest.length by omega]
      exact later
    | closed =>
      simp only [carry, Option.map_some]
      congr 2
      omega
    | rejected => rfl

theorem indentLines_eq (tabWidth base start seen held : Nat) (rest : List Line) :
    indentLines tabWidth base (start + 1 + seen) (start + held) rest =
      start + Indent.walk tabWidth base seen held rest := by
  induction rest generalizing seen held with
  | nil => rfl
  | cons line rest ih =>
    rw [indentLines, Indent.walk]
    split
    · exact ih (seen + 1) held
    · split
      · have later := ih (seen + 1) (seen + 1)
        rw [show start + 1 + (seen + 1) = start + 1 + seen + 1 by omega,
          show start + (seen + 1) = start + 1 + seen by omega] at later
        exact later
      · rfl

/-- **The search for an end does not fail, and finds the end.** -/
theorem blockEnd?_eq (options : Options) (style : Style) {lines : List Line} {start : Nat}
    (lt : start < lines.length) :
    blockEnd? options style lines start = some (endOf? options style lines start) := by
  obtain ⟨header, rest, here⟩ : ∃ header rest, lines.drop start = header :: rest :=
    ⟨_, _, List.drop_eq_getElem_cons lt⟩
  obtain ⟨line, behind, length⟩ := Line.of_drop_eq_cons here
  cases style with
  | indent =>
    have walked := indentLines_eq options.tabWidth (header.indent options.tabWidth) start 0 0 rest
    simp only [blockEnd?, indentEnd?, line, Option.map_some, behind, endOf?, here, extent?,
      Indent.extent]
    exact congrArg (fun n => some (some n)) walked
  | brace =>
    have walked := fun s => braceLines_eq options (header.indent options.tabWidth) start 0 s rest
    simp only [blockEnd?, braceEnd?, line, Option.bind_some, endOf?, here, extent?,
      Brace.extent?]
    rw [braceLines, show (⟨.start, 0, 0, false, false, false⟩ : Counters) =
      Counters.ofScan Brace.Scan.start from rfl, next_header, length]
    cases Brace.Scan.start.read options.counting header with
    | more s => exact walked s
    | closed => rfl
    | rejected => rfl

end Positional
end Block
end CodeGloss
