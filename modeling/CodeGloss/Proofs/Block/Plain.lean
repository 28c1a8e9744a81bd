import CodeGloss.Proofs.Block.Replaced
import Mathlib.Data.List.Infix

/-!
# Lines without literals and comments

On a line on which nothing opens a literal or a comment (`Lexer.IsPlain`) all is code, but for its
slashes.  A lexer that looks out for literals leaves these out, as each of them might start a
comment, and one that does not keeps them (`Lexer.IsPlain.codeOf_eq`).  Slashes are not counted, so
both come to the same (`Brace.Phase.readAll_filter`), and they do so on every line, as neither ever
leaves code (`Brace.extent?_of_isPlain`).
-/

namespace CodeGloss
namespace Block

/-! ## Plain lines -/

namespace Lexer

/-- Whether nothing on a line opens a literal or a comment: there is neither a double quote nor the
quote of a template literal, no apostrophe opens a literal, and no slash comes right before another
slash or a star. -/
structure IsPlain (line : Line) : Prop where
  quote : '"' ∉ line
  template : templateQuote ∉ line
  apostrophe : ∀ rest, '\'' :: rest <:+ line → opensLiteral rest = false
  comment : ¬['/', '/'] <:+: line ∧ ¬['/', '*'] <:+: line

theorem isPlain_iff {line : Line} :
    IsPlain line ↔ '"' ∉ line ∧ templateQuote ∉ line ∧
      (∀ s ∈ line.tails, s.head? = some '\'' → opensLiteral s.tail = false) ∧
        ¬['/', '/'] <:+: line ∧ ¬['/', '*'] <:+: line := by
  have look : (∀ rest, '\'' :: rest <:+ line → opensLiteral rest = false) ↔
      ∀ s ∈ line.tails, s.head? = some '\'' → opensLiteral s.tail = false := by
    simp only [List.mem_tails]
    constructor
    · rintro apostrophe (_ | ⟨c, rest⟩) suffix first
      · cases first
      · cases first
        exact apostrophe rest suffix
    · exact fun apostrophe rest suffix => apostrophe _ suffix rfl
  rw [← look]
  exact ⟨fun ⟨quote, template, apostrophe, comment⟩ => ⟨quote, template, apostrophe, comment⟩,
    fun ⟨quote, template, apostrophe, comment⟩ => ⟨quote, template, apostrophe, comment⟩⟩

instance (line : Line) : Decidable (IsPlain line) :=
  decidable_of_iff' _ isPlain_iff

namespace IsPlain

variable {c : Char} {rest line : List Char}

theorem tail (plain : IsPlain (c :: rest)) : IsPlain rest where
  quote mem := plain.quote (List.mem_cons_of_mem c mem)
  template mem := plain.template (List.mem_cons_of_mem c mem)
  apostrophe rest suffix := plain.apostrophe rest (suffix.trans (List.suffix_cons c _))
  comment := ⟨fun infix_ => plain.comment.1 (List.infix_cons infix_),
    fun infix_ => plain.comment.2 (List.infix_cons infix_)⟩

/-- What follows a slash does not make it a comment. -/
theorem head (plain : IsPlain ('/' :: rest)) : rest.head? ≠ some '/' ∧ rest.head? ≠ some '*' := by
  cases rest with
  | nil => simp
  | cons d rest =>
    have pair : ∀ e, d = e → ['/', e] <:+: '/' :: d :: rest := by
      rintro e rfl
      exact ⟨[], rest, rfl⟩
    refine ⟨fun eq => plain.comment.1 (pair '/' (Option.some.inj eq)), fun eq => ?_⟩
    exact plain.comment.2 (pair '*' (Option.some.inj eq))

/-- All is code but for slashes. -/
theorem read {slash : Bool} (plain : IsPlain (c :: rest))
    (apart : slash = true → c ≠ '/' ∧ c ≠ '*') :
    (code slash).read .literalAware c rest = (code (c == '/'), c != '/') := by
  have quote : (c == '"' || c == templateQuote) = false := by
    rw [Bool.or_eq_false_iff, beq_eq_false_iff_ne, beq_eq_false_iff_ne]
    exact ⟨fun eq => plain.quote (eq ▸ List.mem_cons_self),
      fun eq => plain.template (eq ▸ List.mem_cons_self)⟩
  have opens : (c == '\'' && opensLiteral rest) = false := by
    rw [Bool.and_eq_false_imp, beq_iff_eq]
    rintro rfl
    exact plain.apostrophe rest List.suffix_rfl
  have comment : (c == '*' && slash) = false := by
    rw [Bool.and_eq_false_imp, beq_iff_eq]
    rintro rfl
    exact Bool.eq_false_iff.mpr fun after => (apart after).2 rfl
  show stepCode slash c rest = _
  rw [stepCode, quote, opens, comment]
  by_cases divides : c = '/'
  · subst divides
    cases slash with
    | false => rfl
    | true => exact absurd rfl (apart rfl).1
  · have other : (c == '/') = false := beq_eq_false_iff_ne.mpr divides
    simp only [bne, other, Bool.false_eq_true, if_false, Bool.not_false]

/-- After a character of a plain line the next one does not make it a comment. -/
theorem apart (plain : IsPlain (c :: rest)) :
    (c == '/') = true → ∀ d, rest.head? = some d → d ≠ '/' ∧ d ≠ '*' := by
  rw [beq_iff_eq]
  rintro rfl d next
  obtain ⟨slash, star⟩ := plain.head
  rw [next] at slash star
  exact ⟨fun eq => slash (congrArg some eq), fun eq => star (congrArg some eq)⟩

theorem codeOf_eq {slash : Bool} (plain : IsPlain line)
    (apart : slash = true → ∀ d, line.head? = some d → d ≠ '/' ∧ d ≠ '*') :
    (code slash).codeOf .literalAware line = line.filter (· != '/') := by
  induction line generalizing slash with
  | nil => rfl
  | cons c rest ih =>
    rw [codeOf, plain.read fun after => apart after c rfl, ih plain.tail plain.apart,
      List.filter_cons]

theorem afterLine_eq {slash : Bool} (plain : IsPlain line)
    (apart : slash = true → ∀ d, line.head? = some d → d ≠ '/' ∧ d ≠ '*') :
    (code slash).afterLine .literalAware line = Lexer.start := by
  induction line generalizing slash with
  | nil => rfl
  | cons c rest ih =>
    rw [afterLine, plain.read fun after => apart after c rfl, ih plain.tail plain.apart]

end IsPlain

theorem afterLine_naive (l : Lexer) (line : Line) : l.afterLine .naive line = l.endLine := by
  induction line with
  | nil => rfl
  | cons c rest ih => exact ih

end Lexer

/-! ## Both policies -/

open Lexer (IsPlain)

namespace Brace

/-- Slashes are not counted. -/
theorem Phase.readAll_filter (phase : Phase) (s : List Char) :
    phase.readAll (s.filter (· != '/')) = phase.readAll s := by
  induction s generalizing phase with
  | nil => rfl
  | cons c s ih =>
    by_cases divides : c = '/'
    · subst divides
      have passed : phase.read '/' = .more phase := by cases phase <;> rfl
      rw [List.filter_cons_of_neg (by decide), readAll, passed]
      exact ih phase
    · rw [List.filter_cons_of_pos (by simpa using divides), readAll, readAll]
      cases phase.read c with
      | more phase => exact ih phase
      | closed => rfl
      | rejected => rfl

namespace Scan

variable {tabWidth base : Nat} {s s' : Scan} {line : Line}

/-- A plain line is read in the same way under both policies. -/
theorem read_of_isPlain (plain : IsPlain line) (begins : s.lexer = Lexer.start) :
    s.read .literalAware line = s.read .naive line := by
  have code : Lexer.start.codeOf .literalAware line = line.filter (· != '/') :=
    plain.codeOf_eq nofun
  have after : Lexer.start.afterLine .literalAware line = Lexer.start := plain.afterLine_eq nofun
  rw [read_eq, read_eq, begins, code, after, Phase.readAll_filter, Lexer.codeOf_naive,
    Lexer.afterLine_naive]
  rfl

theorem next_of_isPlain (plain : IsPlain line) (begins : s.lexer = Lexer.start) :
    s.next .literalAware tabWidth base line = s.next .naive tabWidth base line := by
  unfold Scan.next
  split
  · split
    · rfl
    · split
      next s' goes => exact read_of_isPlain plain ((of_goesOn? goes).1.trans begins)
      next => rfl
  · exact read_of_isPlain plain begins

end Scan

theorem walk_of_isPlain {tabWidth base seen : Nat} {s : Scan} {lines : List Line}
    (plain : ∀ line ∈ lines, IsPlain line) (begins : s.lexer = Lexer.start) :
    walk .literalAware tabWidth base seen s lines = walk .naive tabWidth base seen s lines := by
  induction lines generalizing seen s with
  | nil => rfl
  | cons line rest ih =>
    rw [walk, walk, Scan.next_of_isPlain (plain line List.mem_cons_self) begins]
    cases next : s.next .naive tabWidth base line with
    | more s' =>
      have rest_ : s.AtRest := by rw [Scan.AtRest, begins]; rfl
      refine ih (fun line' mem => plain line' (List.mem_cons_of_mem line mem)) ?_
      rw [rest_.lexer_of_next next, Lexer.afterLine_naive, begins]
      rfl
    | closed => rfl
    | rejected => rfl

/-- **Both policies agree on plain lines.** -/
theorem extent?_of_isPlain (tabWidth : Nat) {header : Line} {rest : List Line}
    (plain : ∀ line ∈ header :: rest, IsPlain line) :
    extent? .literalAware tabWidth header rest = extent? .naive tabWidth header rest := by
  have first : Scan.start.read .literalAware header = Scan.start.read .naive header :=
    Scan.read_of_isPlain (plain header List.mem_cons_self) rfl
  rw [extent?, extent?, first]
  cases read : Scan.start.read .naive header with
  | more s =>
    refine walk_of_isPlain (fun line mem => plain line (List.mem_cons_of_mem header mem)) ?_
    rw [Scan.lexer_of_read read, Lexer.afterLine_naive]
    rfl
  | closed => rfl
  | rejected => rfl

end Brace
end Block
end CodeGloss
