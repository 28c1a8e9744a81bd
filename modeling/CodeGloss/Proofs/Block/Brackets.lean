import CodeGloss.Proofs.Text.Lines

/-!
# Well-nested brackets

The brackets of a text, and what it means that they are well nested: each one that opens is closed
by its counterpart, and what stands between the two is well nested itself (`WellNested`).

Read from the left, brackets are well nested if each one that closes closes the innermost one that
is open, and nothing is open in the end (`wellNested_iff`).  What is open after some brackets is a
list with the innermost one in front (`openAfter?`).
-/

namespace CodeGloss
namespace Block

/-- The kinds of brackets. -/
inductive Bracket where
  | round
  | square
  | curly
deriving DecidableEq, Repr

/-- One bracket of a text. -/
inductive Mark where
  | opening (b : Bracket)
  | closing (b : Bracket)
deriving DecidableEq, Repr

namespace Mark

/-- How the bracket is written. -/
def char : Mark → Char
  | opening .round => '('
  | closing .round => ')'
  | opening .square => '['
  | closing .square => ']'
  | opening .curly => '\x7b'
  | closing .curly => '\x7d'

/-- The bracket that a character is. -/
def ofChar? (c : Char) : Option Mark :=
  [opening .round, closing .round, opening .square, closing .square, opening .curly,
    closing .curly].find? (·.char == c)

theorem ofChar?_char (m : Mark) : ofChar? m.char = some m := by
  rcases m with b | b <;> cases b <;> rfl

theorem eq_char_of_ofChar? {c : Char} {m : Mark} (is : ofChar? c = some m) : c = m.char := by
  have same := List.find?_some is
  rw [beq_iff_eq] at same
  exact same.symm

theorem ne_char_of_ofChar? {c : Char} (other : ofChar? c = none) (m : Mark) : c ≠ m.char := by
  rintro rfl
  rw [ofChar?_char] at other
  cases other

end Mark

/-- The brackets of a text, in order. -/
def marks (text : List Char) : List Mark :=
  text.filterMap Mark.ofChar?

theorem marks_append (s t : List Char) : marks (s ++ t) = marks s ++ marks t :=
  List.filterMap_append

/-- The lines of a text have its brackets. -/
theorem marks_flatten_ofText (text : List Char) :
    marks (Line.ofText text).flatten = marks text :=
  Line.filterMap_flatten_ofText (by decide) (by decide) text

/-! ## Well-nested brackets -/

/-- Brackets that are well nested. -/
inductive WellNested : List Mark → Prop where
  | nil : WellNested []
  | pair (b : Bracket) {inner rest : List Mark} (nested : WellNested inner)
      (follows : WellNested rest) :
      WellNested (.opening b :: (inner ++ .closing b :: rest))

/-- What is open after some brackets, innermost first, when `opened` was open before; `none` if one
of them does not close the innermost bracket that is open. -/
def openAfter? : List Bracket → List Mark → Option (List Bracket)
  | opened, [] => some opened
  | opened, .opening b :: rest => openAfter? (b :: opened) rest
  | [], .closing _ :: _ => none
  | innermost :: outer, .closing b :: rest =>
    if innermost = b then openAfter? outer rest else none

theorem openAfter?_closing (b : Bracket) (outer : List Bracket) (rest : List Mark) :
    openAfter? (b :: outer) (.closing b :: rest) = openAfter? outer rest := by
  rw [openAfter?, if_pos rfl]

theorem openAfter?_append (opened : List Bracket) (s t : List Mark) :
    openAfter? opened (s ++ t) = (openAfter? opened s).bind (openAfter? · t) := by
  induction s generalizing opened with
  | nil => rw [List.nil_append, openAfter?, Option.bind_some]
  | cons m s ih =>
    rw [List.cons_append]
    cases m with
    | opening b => rw [openAfter?, openAfter?, ih]
    | closing b =>
      cases opened with
      | nil => rfl
      | cons innermost outer =>
        rw [openAfter?, openAfter?]
        split
        · exact ih outer
        · rfl

/-- Well-nested brackets leave open what was open before. -/
theorem openAfter?_of_wellNested {s : List Mark} (nested : WellNested s) (opened : List Bracket) :
    openAfter? opened s = some opened := by
  induction nested generalizing opened with
  | nil => rfl
  | pair b _ _ inner rest =>
    rw [openAfter?, openAfter?_append, inner, Option.bind_some, openAfter?_closing, rest]

/-- Brackets that close everything close the innermost bracket somewhere, after well-nested ones. -/
theorem exists_closing {b : Bracket} {outer : List Bracket} {s : List Mark}
    (closes : openAfter? (b :: outer) s = some []) :
    ∃ inner rest, s = inner ++ .closing b :: rest ∧ WellNested inner ∧
      openAfter? outer rest = some [] := by
  match s, closes with
  | .closing b' :: s, closes =>
    rw [openAfter?] at closes
    split at closes
    next same => exact ⟨[], s, by rw [same]; rfl, .nil, closes⟩
    next => cases closes
  | .opening c :: s, closes =>
    -- Once for the bracket that opens here, and once more for the one that was open.
    rw [openAfter?] at closes
    obtain ⟨within, behind, eq, nested, closes⟩ := exists_closing closes
    have shorter : behind.length < s.length := by
      rw [eq, List.length_append, List.length_cons]
      omega
    obtain ⟨inner, rest, eq', follows, closes⟩ := exists_closing closes
    refine ⟨.opening c :: (within ++ .closing c :: inner), rest, ?_, .pair c nested follows, closes⟩
    rw [eq, eq', List.cons_append, List.append_assoc, List.cons_append]
termination_by s.length
decreasing_by
  all_goals simp only [List.length_cons]; omega

/-- **Well nested is what closes the innermost bracket each time, and all brackets in the end.** -/
theorem wellNested_iff {s : List Mark} : WellNested s ↔ openAfter? [] s = some [] := by
  refine ⟨fun nested => openAfter?_of_wellNested nested [], fun closes => ?_⟩
  match s, closes with
  | [], _ => exact .nil
  | .opening b :: s, closes =>
    rw [openAfter?] at closes
    obtain ⟨inner, rest, eq, nested, closes⟩ := exists_closing closes
    have shorter : rest.length < s.length := by
      rw [eq, List.length_append, List.length_cons]
      omega
    rw [eq]
    exact .pair b nested (wellNested_iff.mpr closes)
termination_by s.length
decreasing_by
  simp only [List.length_cons]; omega

instance (s : List Mark) : Decidable (WellNested s) :=
  decidable_of_iff (openAfter? [] s = some []) wellNested_iff.symm

example : WellNested (marks "f([a], \x7b b: (c) \x7d) \x7b \x7d".toList) := by decide

/-! ## Reading on -/

/-- What can be read can be read up to any point, and from there on. -/
theorem exists_openAfter? {opened : List Bracket} {s t : List Char}
    (reads : (openAfter? opened (marks (s ++ t))).isSome = true) :
    ∃ opened', openAfter? opened (marks s) = some opened' ∧
      (openAfter? opened' (marks t)).isSome = true := by
  rw [marks_append, openAfter?_append] at reads
  cases reading : openAfter? opened (marks s) with
  | none =>
    rw [reading] at reads
    cases reads
  | some opened' =>
    rw [reading, Option.bind_some] at reads
    exact ⟨opened', rfl, reads⟩

/-- What one character does to the open brackets: it opens one, or it closes the innermost one, or it
is no bracket. -/
theorem openAfter?_char_cases {opened opened' : List Bracket} {c : Char}
    (reads : openAfter? opened (marks [c]) = some opened') :
    (∃ b, c = (Mark.opening b).char ∧ opened' = b :: opened) ∨
      (∃ b, c = (Mark.closing b).char ∧ opened = b :: opened') ∨
      (∀ m : Mark, c ≠ m.char) ∧ opened' = opened := by
  cases is : Mark.ofChar? c with
  | none =>
    have none_ : marks [c] = [] := List.filterMap_cons_none is
    rw [none_, openAfter?] at reads
    cases reads
    exact .inr (.inr ⟨Mark.ne_char_of_ofChar? is, rfl⟩)
  | some m =>
    have one : marks [c] = [m] := List.filterMap_cons_some is
    rw [one] at reads
    cases m with
    | opening b =>
      rw [openAfter?, openAfter?] at reads
      cases reads
      exact .inl ⟨b, Mark.eq_char_of_ofChar? is, rfl⟩
    | closing b =>
      cases opened with
      | nil => cases reads
      | cons innermost outer =>
        rw [openAfter?] at reads
        split at reads
        next same =>
          cases reads
          exact .inr (.inl ⟨b, Mark.eq_char_of_ofChar? is, by rw [same]⟩)
        next => cases reads

end Block
end CodeGloss
