import CodeGloss.Proofs.Block.Replaced

/-!
# What literals and comments hide

Inside a comment, a string in double quotes or a template literal it does not matter what is
written, as long as it cannot end there: braces, parentheses, semicolons and blanks that are put in
for other characters change nothing about any block (`hidden_characters_do_not_matter`).

This is clear for the lexer where it is, as it passes over what it does not tell apart
(`Hides.exists_read`).  It has to be shown for two things that look at a line from afar.  An
apostrophe in code looks at the rest of its line to find out whether it opens a literal; and a line
that comes before the body is looked at as a whole.  Neither gets to see what is hidden, as a quote,
a slash or a star stands in between (`exists_opener`): by it the comment or literal was opened.
These characters end the word that an apostrophe looks at, and the blanks and the word at the start
of a line.
-/

namespace CodeGloss
namespace Block
namespace Lexer

/-- Whether the lexer is inside a comment, or inside a literal that is not in single quotes. -/
def Hides : Lexer → Prop
  | code _ => False
  | lineComment => True
  | blockComment _ => True
  | quoted quote _ => quote = '"' ∨ quote = templateQuote

instance : DecidablePred Hides := fun l =>
  match l with
  | code _ => isFalse id
  | lineComment => isTrue trivial
  | blockComment _ => isTrue trivial
  | quoted quote _ => inferInstanceAs (Decidable (quote = '"' ∨ quote = templateQuote))

/-- The characters that may open or close literals and comments, and the escape. -/
def delimiters : List Char :=
  ['\'', '"', templateQuote, '\\', '/', '*', '\n']

/-- The characters with which something that hides may open. -/
def openers : List Char :=
  ['"', templateQuote, '/', '*']

/-- An opener ends a word that an apostrophe looks at, and the blanks and the word at the start of a
line. -/
theorem openers_apart : ∀ c ∈ openers,
    isLabelChar c = false ∧ Text.isBlank c = false ∧ c ∉ "where".toList := by
  simp only [openers, List.forall_mem_cons, List.not_mem_nil, false_implies, implies_true, and_true]
  decide

/-! ## Where it is hidden -/

/-- What is hidden is passed over, and only a delimiter makes a difference. -/
theorem Hides.exists_read {l : Lexer} (hidden : l.Hides) :
    ∃ l', ∀ c ∉ delimiters, ∀ rest, l.read .literalAware c rest = (l', false) := by
  cases l with
  | code slash => exact hidden.elim
  | lineComment => exact ⟨lineComment, fun c _ rest => rfl⟩
  | blockComment star =>
    refine ⟨blockComment false, fun c plain rest => ?_⟩
    simp only [delimiters, List.mem_cons, not_or] at plain
    simp [read, step, plain]
  | quoted quote escaped =>
    refine ⟨quoted quote false, fun c plain rest => ?_⟩
    have other : c ≠ quote := by
      rintro rfl
      rcases hidden with rfl | rfl <;> exact plain (by decide)
    simp only [delimiters, List.mem_cons, not_or] at plain
    simp [read, step, stepQuoted, plain, other]

/-! ## How it came to be hidden -/

/-- In code, what is no opener is code as well, but for an apostrophe that opens a literal. -/
theorem read_code {c : Char} (plain : c ∉ openers) (slash : Bool) (rest : List Char) :
    (code slash).read .literalAware c rest =
      if c = '\'' ∧ opensLiteral rest = true then (quoted '\'' false, false)
      else (code false, true) := by
  simp only [openers, List.mem_cons, List.not_mem_nil, or_false, not_or] at plain
  by_cases quote : c = '\''
  · subst quote
    simp [read, step, stepCode, templateQuote]
  · simp [read, step, stepCode, plain, quote]

/-- Without an opener nothing becomes hidden. -/
theorem not_hides_read {l : Lexer} (bare : ¬l.Hides) {c : Char} (plain : c ∉ openers)
    (rest : List Char) : ¬(l.read .literalAware c rest).1.Hides := by
  cases l with
  | code slash =>
    rw [read_code plain]
    split
    · simp [Hides, templateQuote]
    · exact id
  | lineComment => exact absurd trivial bare
  | blockComment star => exact absurd trivial bare
  | quoted quote escaped =>
    show ¬(stepQuoted quote escaped c).Hides
    unfold stepQuoted
    split
    · exact bare
    · split
      · exact bare
      · split
        · exact id
        · exact bare

theorem exists_opener {l : Lexer} {front rest : List Char} (bare : ¬l.Hides)
    (hidden : (l.advance .literalAware front rest).Hides) : ∃ c ∈ front, c ∈ openers := by
  induction front generalizing l with
  | nil => exact absurd hidden bare
  | cons c front ih =>
    by_cases opens : c ∈ openers
    · exact ⟨c, List.mem_cons_self, opens⟩
    · obtain ⟨d, mem, opens⟩ := ih (not_hides_read bare opens _) hidden
      exact ⟨d, List.mem_cons_of_mem c mem, opens⟩

/-! ## Seen from afar -/

/-- An apostrophe looks at nothing behind the end of the word that follows it, apart from
apostrophes. -/
theorem opensLiteral_congr {front : List Char} (ends : ∃ c ∈ front, isLabelChar c = false)
    {c d : Char} (other : c ≠ '\'') (other' : d ≠ '\'') (rest : List Char) :
    opensLiteral (front ++ c :: rest) = opensLiteral (front ++ d :: rest) := by
  obtain ⟨x, mem, outside⟩ := ends
  have stops : front.dropWhile isLabelChar ≠ [] := by
    rw [Ne, List.dropWhile_eq_nil_iff]
    intro all
    rw [all x mem] at outside
    cases outside
  obtain ⟨first, front', eq⟩ := List.exists_cons_of_ne_nil (List.ne_nil_of_mem mem)
  have same : ∀ e more, (front ++ e :: more).dropWhile isLabelChar =
      front.dropWhile isLabelChar ++ e :: more := by
    intro e more
    rw [List.dropWhile_append, if_neg (by simpa using stops)]
  have holds : (front ++ c :: rest).contains '\'' = (front ++ d :: rest).contains '\'' := by
    simp [Ne.symm other, Ne.symm other']
  have head : ∀ more, (front.dropWhile isLabelChar ++ more).head? =
      (front.dropWhile isLabelChar).head? := fun more => List.head?_append_of_ne_nil _ stops
  simp only [opensLiteral, same, head, holds]
  rw [eq]
  rfl

/-- **A hidden character may be replaced**, for all that the lexer reads. -/
theorem readAlike_of_hides {l : Lexer} {front back : List Char} {c d : Char}
    (hidden : (l.advance .literalAware front (c :: back)).Hides) (plain : c ∉ delimiters)
    (plain' : d ∉ delimiters) :
    ReadAlike .literalAware l (front ++ c :: back) (front ++ d :: back) := by
  induction front generalizing l with
  | nil =>
    obtain ⟨l', read⟩ := Hides.exists_read hidden
    exact .of_read (read c plain back) (read d plain' back) (.refl back)
  | cons x front ih =>
    refine .cons (read_congr ?_) (ih hidden)
    rintro slash rfl rfl
    -- The word that follows ends with what opens the comment or the literal.
    have bare : ¬((code slash).read .literalAware '\'' (front ++ c :: back)).1.Hides :=
      not_hides_read id (by decide) _
    obtain ⟨x, mem, opens⟩ := exists_opener bare hidden
    refine opensLiteral_congr ⟨x, mem, (openers_apart x opens).1⟩ ?_ ?_ back
    · rintro rfl
      exact plain (by decide)
    · rintro rfl
      exact plain' (by decide)

/-- Where a line begins in code, it begins as it would with the hidden character replaced. -/
theorem beginAlike_of_hides {l : Lexer} {front rest : List Char} (plain : l.inLiteral = false)
    (hidden : (l.advance .literalAware front rest).Hides) (back back' : List Char) :
    BeginAlike (front ++ back) (front ++ back') := by
  have bare : ¬l.Hides := by
    cases l with
    | code slash => exact id
    | _ => cases plain
  obtain ⟨x, mem, opens⟩ := exists_opener bare hidden
  obtain ⟨before, after, rfl⟩ := List.append_of_mem mem
  rw [List.append_assoc, List.append_assoc, List.cons_append, List.cons_append]
  obtain ⟨-, solid, foreign⟩ := openers_apart x opens
  exact beginAlike_of_mark solid foreign _ _

end Lexer

/-! ## Blocks -/

open Lexer (delimiters)

theorem endOf?_of_hides (tabWidth : Nat) {above : List Line} (below : List Line)
    {front back : List Char} {start : Nat} {c d : Char} (le : start ≤ above.length)
    (hidden : ((Lexer.start.afterLines .literalAware (above.drop start)).advance .literalAware
      front (c :: back)).Hides)
    (plain : c ∉ delimiters) (plain' : d ∉ delimiters) :
    endOf? ⟨tabWidth, .literalAware⟩ .brace (above ++ (front ++ d :: back) :: below) start =
      endOf? ⟨tabWidth, .literalAware⟩ .brace (above ++ (front ++ c :: back) :: below) start := by
  refine (endOf?_replaced tabWidth le below ?_ fun begins => ?_).symm
  · exact Lexer.readAlike_of_hides hidden plain plain'
  · exact Lexer.beginAlike_of_hides begins hidden _ _

/-- **What is hidden does not matter.**  Take a position, on a line from `start` on, before which
the lexer is inside a comment, a string in double quotes or a template literal.  If its character is
none of the delimiters, it may be replaced by any other one that is none of them: a block in braces
that starts at `start` ends where it ended, and is there if it was there. -/
theorem hidden_characters_do_not_matter (tabWidth : Nat) {lines : List Line}
    {start row column : Nat} {text : Line} {c d : Char} (from_ : start ≤ row)
    (here : lines[row]? = some text) (there : text[column]? = some c)
    (hidden : (Lexer.before .literalAware lines start row column).Hides)
    (plain : c ∉ delimiters) (plain' : d ∉ delimiters) :
    endOf? ⟨tabWidth, .literalAware⟩ .brace (lines.set row (text.set column d)) start =
      endOf? ⟨tabWidth, .literalAware⟩ .brace lines start := by
  obtain ⟨above, below, rfl, rfl⟩ := Line.exists_append_of_getElem? here
  obtain ⟨front, back, rfl, rfl⟩ := Line.exists_append_of_getElem? there
  rw [Lexer.before_append] at hidden
  simpa using endOf?_of_hides tabWidth below from_ hidden plain plain'

/-- A brace in a comment of the header, on a line with an apostrophe that looks ahead. -/
theorem semicolon_for_brace_in_comment :
    let header := "fn f(s: &'a str) /* \x7d */".toList
    let lines := [header, "\x7b g(s);".toList, "\x7d".toList, "// \x7d".toList]
    0 ≤ 0 ∧ lines[0]? = some header ∧ header[20]? = some '}' ∧
      (Lexer.before .literalAware lines 0 0 20).Hides ∧ '}' ∉ delimiters ∧ ';' ∉ delimiters ∧
      endOf? ⟨4, .literalAware⟩ .brace lines 0 = some 2 ∧
      endOf? ⟨4, .literalAware⟩ .brace (lines.set 0 (header.set 20 ';')) 0 = some 2 := by
  intro header lines
  have there : header[20]? = some '}' := by decide
  have hidden : (Lexer.before .literalAware lines 0 0 20).Hides := by decide
  have plain : '}' ∉ delimiters := by decide
  have plain' : ';' ∉ delimiters := by decide
  have ends : endOf? ⟨4, .literalAware⟩ .brace lines 0 = some 2 := by decide
  have same := hidden_characters_do_not_matter 4 (Nat.le_refl 0) (List.getElem?_cons_zero) there
    hidden plain plain'
  exact ⟨Nat.le_refl 0, rfl, there, hidden, plain, plain', ends, same.trans ends⟩

end Block
end CodeGloss
