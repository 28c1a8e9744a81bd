import CodeGloss.Proofs.Block.Course
import CodeGloss.Proofs.Block.Gap

/-!
# The brace that balances

The block of a header ends on the line of the brace that balances the one by which its body opens.
Here this is said of the code of all lines from the header on, as the lexer finds it in one go
(`Lexer.spots`), and of positions in it.

There is a body if the code declares one, and if every line between the header and the body is fit to
come there (`HasBody`).  A line has to be fit only if it begins where the body may open, outside
parentheses, brackets and literals (`BeginsOutside`).  The end of the block is the line of the
closing brace, or the last one of all (`EndsOn`).

The scan asks the same of the lines that begin while it awaits the body (`Awaited`).  These are the
lines that begin outside everything, down to the line of the brace (`awaited_iff`), and they do not
depend on what comes below them (`awaited_append`).
-/

namespace CodeGloss
namespace Block

/-! ## The code of several lines -/

namespace Lexer

/-- A character of code, and the number of its line. -/
structure Spot where
  /-- The number of the line. -/
  line : Nat
  /-- The character. -/
  char : Char
deriving DecidableEq, Repr

variable (counting : Counting)

/-- The characters of some lines that are code, in reading order.  The first line has the number
`n`. -/
def spots : Lexer → Nat → List Line → List Spot
  | _, _, [] => []
  | l, n, line :: rest =>
    (l.codeOf counting line).map (⟨n, ·⟩) ++ spots (l.afterLine counting line) (n + 1) rest

/-- The lexer after some lines. -/
def afterLines (l : Lexer) (lines : List Line) : Lexer :=
  lines.foldl (fun l line => l.afterLine counting line) l

theorem afterLines_concat (l : Lexer) (lines : List Line) (line : Line) :
    l.afterLines counting (lines ++ [line]) =
      (l.afterLines counting lines).afterLine counting line := by
  rw [afterLines, List.foldl_append]
  rfl

theorem spots_append (l : Lexer) (n : Nat) (front back : List Line) :
    l.spots counting n (front ++ back) =
      l.spots counting n front ++
        (l.afterLines counting front).spots counting (n + front.length) back := by
  induction front generalizing l n with
  | nil => rfl
  | cons line front ih =>
    rw [List.cons_append, spots, spots, ih, List.append_assoc, List.length_cons,
      show n + 1 + front.length = n + (front.length + 1) by omega]
    rfl

theorem line_of_mem_spots {l : Lexer} {n : Nat} {lines : List Line} {spot : Spot}
    (mem : spot ∈ l.spots counting n lines) : n ≤ spot.line ∧ spot.line < n + lines.length := by
  induction lines generalizing l n with
  | nil => cases mem
  | cons line rest ih =>
    rw [List.length_cons]
    rw [spots, List.mem_append] at mem
    rcases mem with here | later
    · obtain ⟨c, -, rfl⟩ := List.mem_map.mp here
      simp only
      omega
    · have bounds := ih later
      omega

variable {counting}

/-- Blanks leave code as it is, and so does the end of their line. -/
theorem afterLine_of_isAllBlank {line : Line} (blank : Text.isAllBlank line = true) :
    (code false).afterLine counting line = code false := by
  induction line with
  | nil => rfl
  | cons c rest ih =>
    rw [Text.isAllBlank, List.all_cons, Bool.and_eq_true] at blank
    have other : ∀ d : Char, Text.isBlank d = false → (c == d) = false := by
      rintro d solid
      rw [beq_eq_false_iff_ne]
      rintro rfl
      rw [blank.1] at solid
      cases solid
    have stays : ((code false).read counting c rest).1 = code false := by
      cases counting with
      | naive => rfl
      | literalAware =>
        simp only [read, step, stepCode, other '/' (by decide), other '*' (by decide),
          other '"' (by decide), other templateQuote (by decide), other '\'' (by decide),
          Bool.false_eq_true, if_false, Bool.false_and, Bool.or_false]
    rw [afterLine, stays]
    exact ih blank.2

/-- A blank line that begins in code leaves the lexer there. -/
theorem afterLine_eq_self {l : Lexer} {line : Line} (rest : l.endLine = l)
    (plain : l.inLiteral = false) (blank : Text.isAllBlank line = true) :
    l.afterLine counting line = l := by
  cases l with
  | code slash =>
    rw [← rest]
    exact afterLine_of_isAllBlank blank
  | _ => cases plain

end Lexer

namespace Brace

open Lexer (Spot)
open Positional (carry)

/-! ## Blocks by positions -/

section Positions

variable (counting : Counting) (tabWidth : Nat) (lines : List Line)

/-- The code of a header and the lines after it.  The header has the number zero. -/
def spots : List Spot :=
  Lexer.start.spots counting 0 lines

/-- The code of a header and the lines after it, without the numbers of the lines. -/
def chars : List Char :=
  (spots counting lines).map Spot.char

/-- Whether a line after the header that is not blank begins outside parentheses and brackets, and
outside literals and comments. -/
structure BeginsOutside (i : Nat) (line : Line) : Prop where
  after : 0 < i
  here : lines[i]? = some line
  solid : Text.isAllBlank line = false
  nesting : nesting (chars counting (lines.take i)) = 0
  plain : (Lexer.start.afterLines counting (lines.take i)).inLiteral = false

/-- Whether a line may come before the body, where the body may open on certain lines.  It begins with
`where`; or it is indented deeper than the header or begins with a brace, and it is the first of
those lines or comes after one that begins with `where`. -/
def Admissible (base : Nat) (begins : Nat → Line → Prop) (i : Nat) (line : Line) : Prop :=
  Scan.startsWhere line = true ∨
    (base < line.indent tabWidth ∨ (Text.trimStart line).head? = some '{') ∧
      ((∀ j line', begins j line' → ¬j < i) ∨
        ∃ j line', begins j line' ∧ j < i ∧ Scan.startsWhere line' = true)

/-- The indentation of the header. -/
def headerIndent : Nat :=
  (lines.headD []).indent tabWidth

/-- Whether there is a body, which opens at a position of the code. -/
structure HasBody (p : Nat) : Prop where
  declares : Declares (chars counting lines) p
  admitted : ∀ spot, (spots counting lines)[p]? = some spot → ∀ i line,
    BeginsOutside counting lines i line → i ≤ spot.line →
      Admissible tabWidth (headerIndent tabWidth lines) (BeginsOutside counting lines) i line

/-- Whether the block whose body opens at a position ends on a line. -/
def EndsOn (p last : Nat) : Prop :=
  (∃ q spot, ClosesAt (chars counting lines) p q ∧ (spots counting lines)[q]? = some spot ∧
    last = spot.line) ∨
  (∀ q, ¬EvenFrom (chars counting lines) p q) ∧ last + 1 = lines.length

end Positions

/-! ## Lines and code -/

section Lines

variable {counting : Counting}

theorem chars_append (front back : List Line) :
    chars counting (front ++ back) = chars counting front ++
      ((Lexer.start.afterLines counting front).spots counting front.length back).map Spot.char := by
  rw [chars, spots, Lexer.spots_append, List.map_append, Nat.zero_add]
  rfl

theorem chars_concat (front : List Line) (line : Line) :
    chars counting (front ++ [line]) = chars counting front ++
      (Lexer.start.afterLines counting front).codeOf counting line := by
  rw [chars_append]
  simp [Lexer.spots, Function.comp_def]

theorem length_chars (lines : List Line) :
    (chars counting lines).length = (spots counting lines).length :=
  List.length_map _

/-- What is on the lines before a line comes before what is on that line. -/
theorem line_lt_iff {lines : List Line} {k : Nat} {spot : Spot}
    (here : (spots counting lines)[k]? = some spot) (i : Nat) :
    spot.line < i ↔ k < (chars counting (lines.take i)).length := by
  have parts : spots counting lines = spots counting (lines.take i) ++
      (Lexer.start.afterLines counting (lines.take i)).spots counting (lines.take i).length
        (lines.drop i) := by
    conv_lhs => rw [← List.take_append_drop i lines]
    rw [spots, Lexer.spots_append, Nat.zero_add]
    rfl
  rw [length_chars]
  rw [parts] at here
  constructor
  · intro lt
    by_contra beyond
    rw [List.getElem?_append_right (Nat.le_of_not_lt beyond)] at here
    have bounds := Lexer.line_of_mem_spots counting (List.mem_of_getElem? here)
    rw [List.length_take, List.length_drop] at bounds
    omega
  · intro lt
    rw [List.getElem?_append_left lt] at here
    have bounds := Lexer.line_of_mem_spots counting (List.mem_of_getElem? here)
    rw [List.length_take] at bounds
    omega

/-- The code of some of the lines begins the code of all of them. -/
theorem chars_take_prefix (lines : List Line) (i : Nat) :
    chars counting (lines.take i) <+: chars counting lines := by
  conv_rhs => rw [← List.take_append_drop i lines, chars_append]
  exact List.prefix_append _ _

theorem exists_spot {lines : List Line} {k : Nat} (lt : k < (chars counting lines).length) :
    ∃ spot, (spots counting lines)[k]? = some spot := by
  rw [length_chars] at lt
  exact ⟨_, List.getElem?_eq_getElem lt⟩

end Lines

/-! ## Where the body is awaited -/

/-- Whether a line after the header that is not blank begins while the body is awaited. -/
structure Awaited (counting : Counting) (lines : List Line) (i : Nat) (line : Line) : Prop where
  after : 0 < i
  here : lines[i]? = some line
  solid : Text.isAllBlank line = false
  seeks : (Phase.seeking 0).readAll (chars counting (lines.take i)) = .more (.seeking 0)
  plain : (Lexer.start.afterLines counting (lines.take i)).inLiteral = false

/-- Whether all lines that begin while the body is awaited may come there. -/
def AllAdmitted (counting : Counting) (tabWidth base : Nat) (lines : List Line) : Prop :=
  ∀ i line, Awaited counting lines i line →
    Admissible tabWidth base (Awaited counting lines) i line

section Awaited

variable {counting : Counting} {tabWidth base i p : Nat} {lines front more : List Line}
  {line line' : Line}

/-- What may come on a line depends on the lines before it. -/
theorem admissible_congr {begins begins' : Nat → Line → Prop}
    (alike : ∀ j line', j < i → (begins j line' ↔ begins' j line')) :
    Admissible tabWidth base begins i line ↔ Admissible tabWidth base begins' i line := by
  have first : (∀ j line', begins j line' → ¬j < i) ↔ ∀ j line', begins' j line' → ¬j < i :=
    ⟨fun first j line' begins' lt => first j line' ((alike j line' lt).mpr begins') lt,
      fun first j line' begins lt => first j line' ((alike j line' lt).mp begins) lt⟩
  have wheres : (∃ j line', begins j line' ∧ j < i ∧ Scan.startsWhere line' = true) ↔
      ∃ j line', begins' j line' ∧ j < i ∧ Scan.startsWhere line' = true := by
    refine exists_congr fun j => exists_congr fun line' => ?_
    exact ⟨fun ⟨begins, lt, word⟩ => ⟨(alike j line' lt).mp begins, lt, word⟩,
      fun ⟨begins', lt, word⟩ => ⟨(alike j line' lt).mpr begins', lt, word⟩⟩
  rw [Admissible, Admissible, first, wheres]

theorem Awaited.lt (awaited : Awaited counting lines i line) : i < lines.length :=
  (List.getElem?_eq_some_iff.mp awaited.here).1

theorem awaited_append (lt : i < front.length) :
    Awaited counting (front ++ more) i line ↔ Awaited counting front i line := by
  have here : (front ++ more)[i]? = front[i]? := List.getElem?_append_left lt
  have before : (front ++ more).take i = front.take i :=
    List.take_append_of_le_length (Nat.le_of_lt lt)
  constructor
  · rintro ⟨after, at_, solid, seeks, plain⟩
    rw [before] at seeks plain
    exact ⟨after, here ▸ at_, solid, seeks, plain⟩
  · rintro ⟨after, at_, solid, seeks, plain⟩
    refine ⟨after, here.trans at_, solid, ?_, ?_⟩
    · rw [before]
      exact seeks
    · rw [before]
      exact plain

/-- The last line of some. -/
theorem awaited_concat :
    Awaited counting (front ++ [line]) front.length line' ↔
      line = line' ∧ 0 < front.length ∧ Text.isAllBlank line = false ∧
        (Phase.seeking 0).readAll (chars counting front) = .more (.seeking 0) ∧
        (Lexer.start.afterLines counting front).inLiteral = false := by
  have before : (front ++ [line]).take front.length = front := List.take_left
  constructor
  · rintro ⟨after, here, solid, seeks, plain⟩
    rw [before] at seeks plain
    rw [List.getElem?_concat_length, Option.some.injEq] at here
    subst here
    exact ⟨rfl, after, solid, seeks, plain⟩
  · rintro ⟨rfl, after, solid, seeks, plain⟩
    refine ⟨after, List.getElem?_concat_length, solid, ?_, ?_⟩
    · rw [before]
      exact seeks
    · rw [before]
      exact plain

theorem awaited_concat_cases (awaited : Awaited counting (front ++ [line]) i line') :
    Awaited counting front i line' ∨ i = front.length := by
  have lt := awaited.lt
  rw [List.length_append, List.length_singleton, Nat.lt_succ_iff] at lt
  rcases Nat.lt_or_eq_of_le lt with less | eq
  · exact .inl ((awaited_append less).mp awaited)
  · exact .inr eq

/-- **The lines that begin while the body is awaited** are those that begin outside everything, down
to the line on which the body opens. -/
theorem awaited_iff {spot : Lexer.Spot} (declares : Declares (chars counting lines) p)
    (here : (spots counting lines)[p]? = some spot) :
    Awaited counting lines i line ↔ BeginsOutside counting lines i line ∧ i ≤ spot.line := by
  obtain ⟨t, all⟩ : chars counting (lines.take i) <+: chars counting lines :=
    chars_take_prefix lines i
  have beyond := line_lt_iff here i
  rw [← all] at declares
  constructor
  · rintro ⟨after, at_, solid, seeks, plain⟩
    refine ⟨⟨after, at_, solid, (readAll_eq_seeking_iff.mp seeks).1.symm, plain⟩, ?_⟩
    by_contra later
    have lt := beyond.mp (Nat.lt_of_not_le later)
    exact not_declares_of_seeking seeks p (declares.of_append lt)
  · rintro ⟨⟨after, at_, solid, nesting, plain⟩, le⟩
    refine ⟨after, at_, solid, readAll_eq_seeking_iff.mpr ⟨nesting.symm, ?_⟩, plain⟩
    rintro k outside
    have lt := lt_of_outside outside
    have less : k < p := by
      by_contra ge
      exact absurd (beyond.mpr (Nat.lt_of_le_of_lt (Nat.le_of_not_lt ge) lt)) (Nat.not_lt.mpr le)
    obtain ⟨⟨c, mem, char⟩, outermost⟩ := outside.append t
    rcases List.mem_cons.mp mem with rfl | mem
    · exact absurd (declares.1.2 ⟨⟨_, List.mem_cons_self, char⟩, outermost⟩) (Nat.not_le.mpr less)
    · exact declares.2 k less ⟨⟨c, mem, char⟩, outermost⟩

theorem hasBody_iff :
    HasBody counting tabWidth lines p ↔ Declares (chars counting lines) p ∧
      AllAdmitted counting tabWidth (headerIndent tabWidth lines) lines := by
  constructor
  · rintro ⟨declares, admitted⟩
    obtain ⟨spot, here⟩ := exists_spot declares.1.lt
    refine ⟨declares, fun i line awaited => ?_⟩
    obtain ⟨begins, le⟩ := (awaited_iff declares here).mp awaited
    refine (admissible_congr fun j line' lt => ?_).mp (admitted spot here i line begins le)
    rw [awaited_iff declares here]
    exact ⟨fun begins' => ⟨begins', Nat.le_trans (Nat.le_of_lt lt) le⟩, And.left⟩
  · rintro ⟨declares, admitted⟩
    refine ⟨declares, fun spot here i line begins le => ?_⟩
    have awaited := (awaited_iff declares here).mpr ⟨begins, le⟩
    refine (admissible_congr fun j line' lt => ?_).mp (admitted i line awaited)
    rw [awaited_iff declares here]
    exact ⟨And.left, fun begins' => ⟨begins', Nat.le_trans (Nat.le_of_lt lt) le⟩⟩

theorem AllAdmitted.of_append (admitted : AllAdmitted counting tabWidth base (front ++ more)) :
    AllAdmitted counting tabWidth base front := by
  intro i line awaited
  have lt := awaited.lt
  refine (admissible_congr fun j line' less => ?_).mp
    (admitted i line ((awaited_append lt).mpr awaited))
  exact awaited_append (Nat.lt_trans less lt)

/-- Once the body has been closed, nothing is awaited. -/
theorem AllAdmitted.append (admitted : AllAdmitted counting tabWidth base front)
    (closed : (Phase.seeking 0).readAll (chars counting front) = .closed) (more : List Line) :
    AllAdmitted counting tabWidth base (front ++ more) := by
  intro i line awaited
  rcases Nat.lt_or_ge i front.length with lt | ge
  · refine (admissible_congr fun j line' less => ?_).mp
      (admitted i line ((awaited_append lt).mp awaited))
    exact (awaited_append (Nat.lt_trans less lt)).symm
  · have seeks := awaited.seeks
    rw [List.take_append, List.take_of_length_le ge, chars_append, Phase.readAll_append,
      closed] at seeks
    cases seeks

end Awaited

end Brace
end Block
end CodeGloss
