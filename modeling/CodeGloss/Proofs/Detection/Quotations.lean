import CodeGloss.Proofs.Block.Quotation
import CodeGloss.Proofs.Detection.Found

/-!
# Text in single quotes in sources

What stands between single quotes on a line is hidden from the definitions that start on other
lines, provided that it is quotable (`quotable_text_is_hidden`).  A text that begins with a word and
has more in it is not: its apostrophe is taken for that of a label, and its delimiters count
(`brace_behind_word_counts`), in languages without such labels as well.
-/

namespace CodeGloss
namespace Detection

open Block (BeginAlike)
open Block.Lexer (ReadAlike IsQuotable)

variable {options : Block.Options} {hint : Hint}

/-- **A line is replaced.**  A candidate that starts on another line stays, with the lines it has,
if the new line begins like the old one and, should it be one of those lines, is read alike. -/
theorem exists_candidate_of_replaced {number : Nat} {above below : List Line} {line line' : Line}
    {d : Definition} (begins : BeginAlike line line')
    (mem : d ∈ candidates options hint number (above ++ line :: below))
    (elsewhere : d.firstLine ≠ number + above.length)
    (alike : d.firstLine < number + above.length → number + above.length ≤ d.lastLine →
      ReadAlike options.counting
        (Block.Lexer.start.afterLines options.counting (above.drop (d.firstLine - number)))
        line line') :
    ∃ d' ∈ candidates options hint number (above ++ line' :: below), d'.key = d.key := by
  obtain ⟨front, header, rest, whole, found⟩ := mem_candidates_iff.mp mem
  have first := firstLine_of_definitionAt? found
  rcases List.append_eq_append_iff.mp whole with ⟨middle, rfl, same⟩ | ⟨middle, rfl, same⟩
  · -- The candidate starts below the line, and nothing changes there.
    rcases middle with _ | ⟨_, between⟩
    · rw [List.append_nil] at first
      exact absurd first elsewhere
    · rw [List.cons_append, List.cons.injEq] at same
      obtain ⟨rfl, rfl⟩ := same
      refine ⟨d, mem_candidates_iff.mpr ⟨above ++ line' :: between, header, rest, ?_, ?_⟩, rfl⟩
      · rw [List.append_assoc, List.cons_append]
      · simpa using found
  · rcases middle with _ | ⟨_, between⟩
    · rw [List.append_nil] at elsewhere
      exact absurd first elsewhere
    · rw [List.cons_append, List.cons.injEq] at same
      obtain ⟨rfl, rfl⟩ := same
      obtain ⟨h, extent, recognized, within, rfl⟩ := definitionAt?_eq_some_iff.mp found
      have within' : Block.extent? options h.style header (between ++ line' :: below) =
          some extent := by
        refine Block.extent?_replaced within begins fun reaches => ?_
        have lines := alike (by simp) (by simp; omega)
        simpa using lines
      refine ⟨_, mem_candidates_iff.mpr ⟨front, header, between ++ line' :: below, ?_,
        definitionAt?_eq_some_iff.mpr ⟨h, extent, recognized, within', rfl⟩⟩, rfl⟩
      rw [List.append_assoc, List.cons_append]

/-- What is replaced may be put back. -/
theorem key_mem_iff_of_replaced {number : Nat} {above below : List Line} {line line' : Line}
    {key : Definition.Key} (begins : BeginAlike line line')
    (elsewhere : key.firstLine ≠ number + above.length)
    (alike : key.firstLine < number + above.length → number + above.length ≤ key.lastLine →
      ReadAlike options.counting
        (Block.Lexer.start.afterLines options.counting (above.drop (key.firstLine - number)))
        line line') :
    key ∈ (candidates options hint number (above ++ line :: below)).map Definition.key ↔
      key ∈ (candidates options hint number (above ++ line' :: below)).map Definition.key := by
  constructor
  · intro mem
    obtain ⟨d, found, rfl⟩ := List.mem_map.mp mem
    exact List.mem_map.mpr (exists_candidate_of_replaced begins found elsewhere alike)
  · intro mem
    obtain ⟨d, found, rfl⟩ := List.mem_map.mp mem
    refine List.mem_map.mpr (exists_candidate_of_replaced begins.symm found elsewhere ?_)
    exact fun starts reaches => (alike starts reaches).symm

/-- A quotable text on a line with others above and below. -/
theorem key_mem_iff_of_isQuotable (tabWidth : Nat) {above below : List Line}
    {front text rest : List Char} {key : Definition.Key} (first : '\'' ∉ front)
    (quotable : IsQuotable text) (none : '\'' ∉ text) (plain : '\\' ∉ text)
    (elsewhere : key.firstLine ≠ 1 + above.length)
    (begins : key.firstLine < 1 + above.length → 1 + above.length ≤ key.lastLine →
      (Block.Lexer.before .literalAware
        (above ++ (front ++ '\'' :: (text ++ '\'' :: rest)) :: below) (key.firstLine - 1)
        above.length front.length).inLiteral = false) :
    key ∈ (candidates ⟨tabWidth, .literalAware⟩ hint 1
        (above ++ (front ++ '\'' :: (text ++ '\'' :: rest)) :: below)).map Definition.key ↔
      key ∈ (candidates ⟨tabWidth, .literalAware⟩ hint 1
        (above ++ (front ++ '\'' :: '\'' :: rest) :: below)).map Definition.key := by
  refine key_mem_iff_of_replaced ?_ elsewhere fun starts reaches => ?_
  · exact Block.beginAlike_of_mark (by decide) (by decide) _ _
  · have code := begins starts reaches
    rw [Block.Lexer.before_append] at code
    exact Block.Lexer.readAlike_of_isQuotable first code quotable none plain

/-- The lines of a source that has a text in single quotes.  Of these only one depends on the text.
-/
theorem exists_lines_of_quotation (above below : String) :
    ∃ upper rest lower, (Line.ofText above.toList).length = 1 + upper.length ∧
      ∀ text : String, '\n' ∉ text.toList →
        Line.ofText (above ++ "'" ++ text ++ "'" ++ below).toList =
          upper ++ (above.toList.rtakeWhile (· != '\n') ++ '\'' :: (text.toList ++ '\'' :: rest)) ::
            lower := by
  refine ⟨(Line.ofText above.toList).dropLast, (Line.ofText below.toList).headD [],
    (Line.ofText below.toList).tail, ?_, fun text inLine => ?_⟩
  · have := List.length_pos_iff.mpr (Line.ofText_ne_nil above.toList)
    rw [List.length_dropLast]
    omega
  · have chars : (above ++ "'" ++ text ++ "'" ++ below).toList =
        above.toList ++ (('\'' :: text.toList) ++ '\'' :: below.toList) := by simp
    rw [chars, Line.ofText_append_mark (by decide) (by decide) (by simpa using inLine)]
    rfl

/-- **What stands between single quotes is hidden** if it is quotable.  Take a text in single
quotes, without an apostrophe or a backslash, on a line on which there is no apostrophe before.
Whether its first quote opens a literal in code depends on whether the text is quotable, and on
nothing else.  If it does, the text may be left out without any definition being found, lost or
given other lines, apart from those that start on this very line.  All that it takes is that the
first quote is read in code by the definitions that start above and cover the line. -/
theorem quotable_text_is_hidden (tabWidth : Nat) (hint : Hint) (above text below : String)
    (first : '\'' ∉ above.toList.rtakeWhile (· != '\n')) (none : '\'' ∉ text.toList)
    (plain : '\\' ∉ text.toList) (inLine : '\n' ∉ text.toList) :
    let source := above ++ "'" ++ text ++ "'" ++ below
    let keys := fun source =>
      (Outline.ofText ⟨tabWidth, .literalAware⟩ hint source).definitions.map Definition.key
    let number := (Line.ofText above.toList).length
    let column := (above.toList.rtakeWhile (· != '\n')).length
    (∀ rest, Block.Lexer.opensLiteral (text.toList ++ '\'' :: rest) = true ↔
      IsQuotable text.toList) ∧
    (IsQuotable text.toList → ∀ key : Definition.Key, key.firstLine ≠ number →
      (key.firstLine < number → number ≤ key.lastLine →
        (Block.Lexer.before .literalAware (Line.ofText source.toList) (key.firstLine - 1)
          (number - 1) column).inLiteral = false) →
      (key ∈ keys source ↔ key ∈ keys (above ++ "''" ++ below))) := by
  intro source keys number column
  refine ⟨Block.Lexer.opensLiteral_iff none, fun quotable key elsewhere begins => ?_⟩
  obtain ⟨upper, rest, lower, number_eq, lines⟩ := exists_lines_of_quotation above below
  have short : above ++ "''" ++ below = above ++ "'" ++ "" ++ "'" ++ below := by
    rw [← String.toList_inj]
    simp
  replace number_eq : number = 1 + upper.length := number_eq
  rw [lines text inLine, number_eq, Nat.add_sub_cancel_left] at begins
  rw [number_eq] at elsewhere
  simp only [keys, source, short, definitions_ofText, lines text inLine, lines "" (by simp)]
  exact key_mem_iff_of_isQuotable tabWidth first quotable none plain elsewhere begins

/-- A brace before a word, in a function that a script defines above. -/
theorem brace_before_word_is_hidden :
    let above := "function f() \x7b\n  say("
    let text := "\x7d go"
    let below := ");\n\x7d\n"
    let source := above ++ "'" ++ text ++ "'" ++ below
    let keys := fun source =>
      (Outline.ofText ⟨4, .literalAware⟩ (some .javaScript) source).definitions.map Definition.key
    let number := (Line.ofText above.toList).length
    let column := (above.toList.rtakeWhile (· != '\n')).length
    let key : Definition.Key := ⟨.function, "f", 1, 3⟩
    '\'' ∉ above.toList.rtakeWhile (· != '\n') ∧ '\'' ∉ text.toList ∧ '\\' ∉ text.toList ∧
      '\n' ∉ text.toList ∧ IsQuotable text.toList ∧ key.firstLine ≠ number ∧
      (Block.Lexer.before .literalAware (Line.ofText source.toList) (key.firstLine - 1)
        (number - 1) column).inLiteral = false ∧
      key ∈ keys source ∧ key ∈ keys (above ++ "''" ++ below) := by
  intro above text below source keys number column key
  have first : '\'' ∉ above.toList.rtakeWhile (· != '\n') := by decide
  have none : '\'' ∉ text.toList := by decide
  have plain : '\\' ∉ text.toList := by decide
  have inLine : '\n' ∉ text.toList := by decide
  have quotable : IsQuotable text.toList := .inr ⟨'}', by decide, by decide⟩
  have elsewhere : key.firstLine ≠ number := by decide
  have begins : (Block.Lexer.before .literalAware (Line.ofText source.toList) (key.firstLine - 1)
      (number - 1) column).inLiteral = false := by
    decide
  have found : key ∈ keys source := by
    show _ ∈ (Outline.ofText _ _ _).definitions.map Definition.key
    rw [definitions_ofText]
    decide
  have hidden :=
    quotable_text_is_hidden 4 (some .javaScript) above text below first none plain inLine
  have kept := (hidden.2 quotable key elsewhere fun _ _ => begins).mp found
  exact ⟨first, none, plain, inLine, quotable, elsewhere, begins, found, kept⟩

/-- A brace behind a word counts.  The function ends too late, and not where it would without the
text. -/
theorem brace_behind_word_counts :
    let above := "function f() \x7b\n  say("
    let text := "go \x7b"
    let below := ");\n\x7d\nfunction g() \x7b\n\x7d\n"
    let keys := fun source =>
      (Outline.ofText ⟨4, .literalAware⟩ (some .javaScript) source).definitions.map Definition.key
    '\'' ∉ above.toList.rtakeWhile (· != '\n') ∧ '\'' ∉ text.toList ∧ '\\' ∉ text.toList ∧
      '\n' ∉ text.toList ∧
      (Block.Lexer.before .literalAware
        (Line.ofText (above ++ "'" ++ text ++ "'" ++ below).toList) 0 1 6).inLiteral = false ∧
      keys (above ++ "'" ++ text ++ "'" ++ below) =
        [⟨.function, "f", 1, 6⟩, ⟨.function, "g", 4, 5⟩] ∧
      keys (above ++ "''" ++ below) = [⟨.function, "f", 1, 3⟩, ⟨.function, "g", 4, 5⟩] := by
  intro above text below keys
  refine ⟨by decide, by decide, by decide, by decide, by decide, ?_, ?_⟩
  · show (Outline.ofText _ _ _).definitions.map Definition.key = _
    rw [definitions_ofText]
    decide +kernel
  · show (Outline.ofText _ _ _).definitions.map Definition.key = _
    rw [definitions_ofText]
    decide +kernel

end Detection
end CodeGloss
