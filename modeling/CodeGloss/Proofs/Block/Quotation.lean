import CodeGloss.Proofs.Block.Replaced

/-!
# Text in single quotes

An apostrophe may open a literal or be part of a lifetime or a label.  Which of them it is is
guessed from the word that follows.  So of a text in single quotes only some can be told from a
label: one that is a word and no more, or none at all, and one that does not begin with a word
(`IsQuotable`).  There the first quote opens a literal (`opensLiteral_iff`), which goes on to the
second one, and the text could as well be left out (`readAlike_of_isQuotable`).  Any other text in
single quotes is taken for code from its beginning.
-/

namespace CodeGloss
namespace Block
namespace Lexer

variable {text rest : List Char}

/-- Whether a text in single quotes is told from a label: all of it is one word, or it does not
begin with a word. -/
def IsQuotable (text : List Char) : Prop :=
  (∀ c ∈ text, isLabelChar c = true) ∨ ∃ c ∈ text.head?, isLabelChar c = false

/-- The word that a text begins with ends at the next apostrophe if it is the whole text before. -/
theorem head?_dropWhile_eq_iff (none : '\'' ∉ text) (rest : List Char) :
    ((text ++ '\'' :: rest).dropWhile isLabelChar).head? = some '\'' ↔
      ∀ c ∈ text, isLabelChar c = true := by
  induction text with
  | nil =>
    have apart : isLabelChar '\'' = false := by decide
    simp [apart]
  | cons c text ih =>
    rw [List.mem_cons, not_or] at none
    rw [List.cons_append, List.dropWhile_cons, List.forall_mem_cons]
    split
    next label => rw [ih none.2, and_iff_right label]
    next other =>
      rw [List.head?_cons, Option.some_inj]
      exact iff_of_false (fun quote => none.1 quote.symm) (fun all => other all.1)

/-- **Which apostrophes open a literal**, when another one follows on the line: it is those with a
quotable text in between. -/
theorem opensLiteral_iff (none : '\'' ∉ text) (rest : List Char) :
    opensLiteral (text ++ '\'' :: rest) = true ↔ IsQuotable text := by
  cases text with
  | nil =>
    have apart : isLabelChar '\'' = false := by decide
    simp [opensLiteral, IsQuotable, apart]
  | cons c text =>
    unfold IsQuotable
    rw [← head?_dropWhile_eq_iff none rest]
    cases label : isLabelChar c <;> simp [opensLiteral, label]

/-- A literal in single quotes goes on to the next quote if nothing is escaped, whatever it holds.
-/
theorem readAlike_quoted (none : '\'' ∉ text) (plain : '\\' ∉ text) (rest : List Char) :
    ReadAlike .literalAware (quoted '\'' false) (text ++ '\'' :: rest) ('\'' :: rest) := by
  induction text with
  | nil => exact .refl _
  | cons c text ih =>
    rw [List.mem_cons, not_or] at none plain
    have here : (quoted '\'' false).read .literalAware c (text ++ '\'' :: rest) =
        (quoted '\'' false, false) := by
      simp [read, step, stepQuoted, Ne.symm none.1, Ne.symm plain.1]
    obtain ⟨code, after⟩ := ih none.2 plain.2
    constructor
    · rw [List.cons_append, codeOf, here]
      exact code
    · rw [List.cons_append, afterLine, here]
      exact after

/-- **A quotable text in single quotes may be left out**, if its first quote is the first apostrophe
of the line and is read in code. -/
theorem readAlike_of_isQuotable {l : Lexer} {front : List Char} (first : '\'' ∉ front)
    (begins : (l.advance .literalAware front ('\'' :: (text ++ '\'' :: rest))).inLiteral = false)
    (quotable : IsQuotable text) (none : '\'' ∉ text) (plain : '\\' ∉ text) :
    ReadAlike .literalAware l (front ++ '\'' :: (text ++ '\'' :: rest))
      (front ++ '\'' :: '\'' :: rest) := by
  refine .append first ?_
  cases here : l.advance .literalAware front ('\'' :: (text ++ '\'' :: rest)) with
  | code slash =>
    have opens : opensLiteral (text ++ '\'' :: rest) = true :=
      (opensLiteral_iff none rest).mpr quotable
    have opens' : opensLiteral ('\'' :: rest) = true :=
      (opensLiteral_iff List.not_mem_nil rest).mpr (.inl nofun)
    have read : ∀ more, opensLiteral more = true →
        (code slash).read .literalAware '\'' more = (quoted '\'' false, false) := by
      intro more opens
      simp [Lexer.read, step, stepCode, opens, templateQuote]
    exact .of_read (read _ opens) (read _ opens') (readAlike_quoted none plain rest)
  | _ =>
    rw [here] at begins
    cases begins

end Lexer
end Block
end CodeGloss
