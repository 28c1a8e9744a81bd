import CodeGloss.Proofs.Block.Code
import Mathlib.Data.List.Induction
import Mathlib.Order.Bounds.Basic

/-!
# The course of a declaration

What becomes of a declaration when its code is read is told here by positions in the code, without
anything being carried along.  The body opens at the first brace that stands outside parentheses and
brackets (`OpensAt`), if no semicolon and no closing brace stands outside them before
(`Declares`).  It is closed at the first position at which as many braces have been closed as were
opened since then (`ClosesAt`).

Reading character by character comes to the same (`course_readAll`).  The four ways in which it can
come out are the cases of `Course`.  Each of them is about positions that were read, so it says the
same of all code that begins like this (`outside_append`, `evenFrom_append`).
-/

namespace CodeGloss
namespace Block
namespace Brace

/-! ## Positions in code -/

/-- The nesting after one more character. -/
def nested (n : Nat) (c : Char) : Nat :=
  if c = '(' ∨ c = '[' then n + 1 else if c = ')' ∨ c = ']' then n - 1 else n

/-- How many parentheses and brackets are open after some code.  What closes none of them does not
count. -/
def nesting (s : List Char) : Nat :=
  s.foldl nested 0

/-- Whether one of some characters stands at a position, outside parentheses and brackets. -/
def Outside (s among : List Char) (k : Nat) : Prop :=
  (∃ c ∈ among, s[k]? = some c) ∧ nesting (s.take k) = 0

/-- Whether the body opens at a position. -/
def OpensAt (s : List Char) (p : Nat) : Prop :=
  IsLeast {k | Outside s ['{'] k} p

/-- Whether the body opens at a position, and nothing before says that there is none. -/
def Declares (s : List Char) (p : Nat) : Prop :=
  OpensAt s p ∧ ∀ k < p, ¬Outside s [';', '}'] k

/-- Whether as many braces are closed as opened from a position up to a later one. -/
def EvenFrom (s : List Char) (p q : Nat) : Prop :=
  p < q ∧ q < s.length ∧
    ((s.take (q + 1)).drop p).count '{' = ((s.take (q + 1)).drop p).count '}'

/-- Whether the body that opens at a position is closed at another one. -/
def ClosesAt (s : List Char) (p q : Nat) : Prop :=
  IsLeast {k | EvenFrom s p k} q

section Append

variable {s t among : List Char} {c : Char} {k p q : Nat}

theorem nesting_concat (s : List Char) (c : Char) : nesting (s ++ [c]) = nested (nesting s) c := by
  rw [nesting, List.foldl_append]
  rfl

theorem lt_of_outside (outside : Outside s among k) : k < s.length := by
  obtain ⟨⟨c, -, here⟩, -⟩ := outside
  exact (List.getElem?_eq_some_iff.mp here).1

/-- What stands at a position does not depend on what follows. -/
theorem outside_append (lt : k < s.length) : Outside (s ++ t) among k ↔ Outside s among k := by
  rw [Outside, Outside, List.getElem?_append_left lt,
    List.take_append_of_le_length (Nat.le_of_lt lt)]

theorem Outside.append (outside : Outside s among k) (t : List Char) :
    Outside (s ++ t) among k :=
  (outside_append (lt_of_outside outside)).mpr outside

theorem outside_concat : Outside (s ++ [c]) among s.length ↔ c ∈ among ∧ nesting s = 0 := by
  simp [Outside]

/-- A position in longer code is one in the code itself or the last one. -/
theorem outside_concat_cases (outside : Outside (s ++ [c]) among k) :
    Outside s among k ∨ k = s.length ∧ c ∈ among ∧ nesting s = 0 := by
  have lt := lt_of_outside outside
  rw [List.length_append, List.length_singleton, Nat.lt_succ_iff] at lt
  rcases Nat.lt_or_eq_of_le lt with lt | rfl
  · exact .inl ((outside_append lt).mp outside)
  · exact .inr ⟨rfl, outside_concat.mp outside⟩

theorem OpensAt.lt (opens : OpensAt s p) : p < s.length :=
  lt_of_outside opens.1

theorem OpensAt.append (opens : OpensAt s p) (t : List Char) : OpensAt (s ++ t) p := by
  refine ⟨opens.1.append t, fun k outside => ?_⟩
  rcases Nat.lt_or_ge k p with lt | le
  · exact opens.2 ((outside_append (Nat.lt_trans lt opens.lt)).mp outside)
  · exact le

theorem Declares.append (declares : Declares s p) (t : List Char) : Declares (s ++ t) p := by
  refine ⟨declares.1.append t, fun k lt outside => declares.2 k lt ?_⟩
  exact (outside_append (Nat.lt_trans lt declares.1.lt)).mp outside

theorem Declares.of_append (declares : Declares (s ++ t) p) (lt : p < s.length) : Declares s p := by
  refine ⟨⟨(outside_append lt).mp declares.1.1, fun k outside => ?_⟩, fun k less outside => ?_⟩
  · exact declares.1.2 (outside.append t)
  · exact declares.2 k less (outside.append t)

/-- Braces are counted up to a position whatever follows. -/
theorem evenFrom_append (lt : q < s.length) : EvenFrom (s ++ t) p q ↔ EvenFrom s p q := by
  have longer : q < (s ++ t).length := by
    rw [List.length_append]
    omega
  simp only [EvenFrom, List.take_append_of_le_length (Nat.succ_le_of_lt lt), lt, longer]

theorem evenFrom_concat (le : p < s.length) :
    EvenFrom (s ++ [c]) p s.length ↔
      (s.drop p).count '{' + [c].count '{' = (s.drop p).count '}' + [c].count '}' := by
  have whole : (s ++ [c]).take (s.length + 1) = s ++ [c] :=
    List.take_of_length_le (by simp)
  rw [EvenFrom, whole, List.drop_append_of_le_length (Nat.le_of_lt le), List.count_append,
    List.count_append]
  simp [le]

theorem ClosesAt.append (closes : ClosesAt s p q) (t : List Char) : ClosesAt (s ++ t) p q := by
  obtain ⟨lt, inside, even⟩ := closes.1
  refine ⟨(evenFrom_append inside).mpr ⟨lt, inside, even⟩, fun k even => ?_⟩
  rcases Nat.lt_or_ge k q with less | le
  · exact closes.2 ((evenFrom_append (Nat.lt_trans less inside)).mp even)
  · exact le

end Append

/-! ## Reading -/

/-- How reading some code comes out. -/
inductive Course (s : List Char) : Progress Phase → Prop where
  /-- Nothing has been decided. -/
  | seeking (still : ∀ k, ¬Outside s ['{', ';', '}'] k) : Course s (.more (.seeking (nesting s)))
  /-- The body has been opened, and inside it as many braces are open as are carried along. -/
  | inside {p inner : Nat} (declares : Declares s p)
      (excess : (s.drop p).count '{' = (s.drop p).count '}' + (inner + 1))
      (unclosed : ∀ q, ¬EvenFrom s p q) : Course s (.more (.inside inner))
  /-- The body has been closed. -/
  | closed {p q : Nat} (declares : Declares s p) (closes : ClosesAt s p q) : Course s .closed
  /-- Something has shown that there is no body. -/
  | rejected {k : Nat} (ends : Outside s [';', '}'] k) (before : ∀ j ≤ k, ¬Outside s ['{'] j) :
      Course s .rejected

namespace Phase

theorem readAll_append (phase : Phase) (s t : List Char) :
    phase.readAll (s ++ t) =
      match phase.readAll s with
      | .more phase => phase.readAll t
      | .closed => .closed
      | .rejected => .rejected := by
  induction s generalizing phase with
  | nil => rfl
  | cons c s ih =>
    simp only [List.cons_append, readAll]
    cases phase.read c with
    | more phase => exact ih phase
    | closed => rfl
    | rejected => rfl

theorem readAll_concat (phase : Phase) (s : List Char) (c : Char) :
    phase.readAll (s ++ [c]) =
      match phase.readAll s with
      | .more phase => phase.read c
      | .closed => .closed
      | .rejected => .rejected := by
  rw [readAll_append]
  cases phase.readAll s with
  | more phase =>
    simp only [readAll]
    cases phase.read c <;> rfl
  | closed => rfl
  | rejected => rfl

/-- Before the body, a character decides something or counts for the nesting. -/
theorem read_seeking (n : Nat) (c : Char) :
    (seeking n).read c =
      if c = '{' ∧ n = 0 then .more (.inside 0)
      else if (c = ';' ∨ c = '}') ∧ n = 0 then .rejected
      else .more (.seeking (nested n c)) := by
  by_cases opening : c = '(' ∨ c = '['
  · rcases opening with rfl | rfl <;> rfl
  · by_cases closing : c = ')' ∨ c = ']'
    · rcases closing with rfl | rfl <;> rfl
    · obtain ⟨round, square⟩ := not_or.mp opening
      obtain ⟨round', square'⟩ := not_or.mp closing
      simp [read, nested, round, square, round', square']

end Phase

theorem Course.concat_seeking {s : List Char} (still : ∀ k, ¬Outside s ['{', ';', '}'] k)
    (c : Char) : Course (s ++ [c]) ((Phase.seeking (nesting s)).read c) := by
  have before : ∀ among ⊆ ['{', ';', '}'], ∀ k < s.length, ¬Outside (s ++ [c]) among k := by
    intro among subset k lt outside
    obtain ⟨⟨d, mem, here⟩, outermost⟩ := (outside_append lt).mp outside
    exact still k ⟨⟨d, subset mem, here⟩, outermost⟩
  rw [Phase.read_seeking]
  split
  next opens =>
    obtain ⟨rfl, outermost⟩ := opens
    refine .inside (p := s.length) ⟨⟨outside_concat.mpr ⟨by simp, outermost⟩, ?_⟩, ?_⟩ ?_ ?_
    · intro k outside
      exact Nat.le_of_not_lt fun lt => before _ (by simp) k lt outside
    · exact fun k lt => before _ (by simp) k lt
    · simp
    · rintro q ⟨lt, inside, -⟩
      rw [List.length_append, List.length_singleton] at inside
      omega
  next closed =>
    split
    next ends =>
      obtain ⟨char, outermost⟩ := ends
      refine .rejected (k := s.length) (outside_concat.mpr ⟨by simpa using char, outermost⟩) ?_
      intro j le outside
      rcases outside_concat_cases outside with inside | ⟨-, brace, -⟩
      · exact before _ (by simp) j (lt_of_outside inside) outside
      · exact closed ⟨by simpa using brace, outermost⟩
    next goes =>
      rw [← nesting_concat]
      refine .seeking fun k outside => ?_
      rcases outside_concat_cases outside with inside | ⟨-, char, outermost⟩
      · exact still k inside
      · rcases (by simpa using char : c = '{' ∨ c = ';' ∨ c = '}') with brace | ends
        · exact closed ⟨brace, outermost⟩
        · exact goes ⟨ends, outermost⟩

theorem Course.concat_inside {s : List Char} {p inner : Nat} (declares : Declares s p)
    (excess : (s.drop p).count '{' = (s.drop p).count '}' + (inner + 1))
    (unclosed : ∀ q, ¬EvenFrom s p q) (c : Char) :
    Course (s ++ [c]) ((Phase.inside inner).read c) := by
  have lt := declares.1.lt
  have drop : (s ++ [c]).drop p = s.drop p ++ [c] :=
    List.drop_append_of_le_length (Nat.le_of_lt lt)
  -- Only at the last position can the braces be even.
  have later : ∀ q, EvenFrom (s ++ [c]) p q → q = s.length := by
    rintro q ⟨first, inside, even⟩
    rw [List.length_append, List.length_singleton, Nat.lt_succ_iff] at inside
    rcases Nat.lt_or_eq_of_le inside with less | eq
    · exact absurd ((evenFrom_append less).mp ⟨first, by simp; omega, even⟩) (unclosed q)
    · exact eq
  have goes : ∀ inner', (s.drop p).count '{' + [c].count '{' =
      (s.drop p).count '}' + [c].count '}' + (inner' + 1) →
        Course (s ++ [c]) (.more (.inside inner')) := by
    intro inner' excess'
    refine .inside (declares.append [c]) ?_ fun q even => ?_
    · rw [drop, List.count_append, List.count_append]
      exact excess'
    · obtain rfl := later q even
      have even := (evenFrom_concat lt).mp even
      omega
  by_cases opening : c = '{'
  · subst opening
    refine goes (inner + 1) ?_
    simp only [List.count_singleton, beq_self_eq_true, if_true, excess]
    simp
    omega
  · by_cases closing : c = '}'
    · subst closing
      cases inner with
      | zero =>
        have even : EvenFrom (s ++ ['}']) p s.length := by
          rw [evenFrom_concat lt, excess]
          simp
        exact .closed (declares.append _) ⟨even, fun q even => Nat.le_of_eq (later q even).symm⟩
      | succ outer =>
        refine goes outer ?_
        rw [excess]
        simp
        omega
    · have stays : (Phase.inside inner).read c = .more (.inside inner) := by
        simp [Phase.read, opening, closing]
      rw [stays]
      refine goes inner ?_
      simp [excess, opening, closing]

/-- **Reading character by character** comes out as the positions in the code say. -/
theorem course_readAll (s : List Char) : Course s ((Phase.seeking 0).readAll s) := by
  induction s using List.reverseRecOn with
  | nil =>
    refine .seeking fun k outside => ?_
    exact absurd (lt_of_outside outside) (Nat.not_lt_zero k)
  | append_singleton s c ih =>
    rw [Phase.readAll_concat]
    generalize (Phase.seeking 0).readAll s = progress at ih
    cases ih with
    | seeking still => exact .concat_seeking still c
    | inside declares excess unclosed => exact .concat_inside declares excess unclosed c
    | closed declares closes => exact .closed (declares.append [c]) (closes.append [c])
    | @rejected k ends before =>
      refine .rejected (ends.append [c]) fun j le outside => before j le ?_
      exact (outside_append (Nat.lt_of_le_of_lt le (lt_of_outside ends))).mp outside

/-! ## What is read off -/

section Outcome

variable {s : List Char} {n inner : Nat}

/-- Nothing is decided as long as no brace and no semicolon stands outside. -/
theorem readAll_eq_seeking_iff :
    (Phase.seeking 0).readAll s = .more (.seeking n) ↔
      n = nesting s ∧ ∀ k, ¬Outside s ['{', ';', '}'] k := by
  have course := course_readAll s
  generalize (Phase.seeking 0).readAll s = progress at course
  constructor
  · rintro rfl
    cases course with
    | seeking still => exact ⟨rfl, still⟩
  · rintro ⟨rfl, still⟩
    have decided : ∀ {among : List Char} {k : Nat}, among ⊆ ['{', ';', '}'] →
        ¬Outside s among k := by
      rintro among k subset ⟨⟨c, mem, here⟩, outermost⟩
      exact still k ⟨⟨c, subset mem, here⟩, outermost⟩
    cases course with
    | seeking => rfl
    | inside declares => exact absurd declares.1.1 (decided (by simp))
    | closed declares => exact absurd declares.1.1 (decided (by simp))
    | rejected ends => exact absurd ends (decided (by simp))

theorem not_declares_of_seeking (read : (Phase.seeking 0).readAll s = .more (.seeking n))
    (p : Nat) : ¬Declares s p := by
  intro declares
  obtain ⟨⟨c, mem, here⟩, outermost⟩ := declares.1.1
  exact (readAll_eq_seeking_iff.mp read).2 p ⟨⟨c, by simp_all, here⟩, outermost⟩

theorem declares_of_inside (read : (Phase.seeking 0).readAll s = .more (.inside inner)) :
    ∃ p, Declares s p ∧ ∀ q, ¬EvenFrom s p q := by
  have course := course_readAll s
  rw [read] at course
  cases course with
  | inside declares excess unclosed => exact ⟨_, declares, unclosed⟩

/-- As long as there is more to read, no body has been closed. -/
theorem not_evenFrom_of_more {phase : Phase} {p : Nat}
    (read : (Phase.seeking 0).readAll s = .more phase) (declares : Declares s p) (q : Nat) :
    ¬EvenFrom s p q := by
  cases phase with
  | seeking n => exact absurd declares (not_declares_of_seeking read p)
  | inside inner =>
    obtain ⟨p', declares', unclosed⟩ := declares_of_inside read
    obtain rfl := declares.1.unique declares'.1
    exact unclosed q

theorem closesAt_of_closed (read : (Phase.seeking 0).readAll s = .closed) :
    ∃ p q, Declares s p ∧ ClosesAt s p q := by
  have course := course_readAll s
  rw [read] at course
  cases course with
  | closed declares closes => exact ⟨_, _, declares, closes⟩

/-- Whatever follows, there is no body any more. -/
theorem not_declares_of_rejected (read : (Phase.seeking 0).readAll s = .rejected) (t : List Char)
    (p : Nat) : ¬Declares (s ++ t) p := by
  have course := course_readAll s
  rw [read] at course
  cases course with
  | @rejected k ends before =>
    intro declares
    rcases Nat.lt_or_ge k p with lt | le
    · exact declares.2 k lt (ends.append t)
    · refine before p le ((outside_append ?_).mp declares.1.1)
      exact Nat.lt_of_le_of_lt le (lt_of_outside ends)

end Outcome

end Brace
end Block
end CodeGloss
