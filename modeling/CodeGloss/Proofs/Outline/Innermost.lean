import CodeGloss.Outline

/-!
# Innermost definitions

The innermost definition that covers a line is looked for as the shortest one.  Of definitions that
overlap in any way the shortest one need not lie inside the others.  It does where definitions are
nested, that is, clear of each other or one inside the other: then the shortest of those that cover a
line starts last and lies inside all others (`Outline.innermost?_of_nested`).
-/

namespace CodeGloss

namespace Definition

/-- No line belongs to both definitions. -/
def Apart (a b : Definition) : Prop :=
  a.lastLine < b.firstLine ∨ b.lastLine < a.firstLine

/-- The lines of the second definition are lines of the first. -/
def Encloses (a b : Definition) : Prop :=
  a.firstLine ≤ b.firstLine ∧ b.lastLine ≤ a.lastLine

/-- The definitions are clear of each other or one inside the other, any two of them. -/
def Nested (ds : List Definition) : Prop :=
  ∀ a ∈ ds, ∀ b ∈ ds, a.Apart b ∨ a.Encloses b ∨ b.Encloses a

theorem covers_iff {d : Definition} {line : Nat} :
    d.covers line = true ↔ d.firstLine ≤ line ∧ line ≤ d.lastLine := by
  rw [covers, Bool.and_eq_true, decide_eq_true_eq, decide_eq_true_eq]

/-- Definitions are nested if one that starts in another one ends in it, and each line starts one at
most. -/
theorem nested_of_ends {ds : List Definition}
    (alone : ∀ a ∈ ds, ∀ b ∈ ds, a.firstLine = b.firstLine → a = b)
    (ends : ∀ a ∈ ds, ∀ b ∈ ds, a.firstLine < b.firstLine → b.firstLine ≤ a.lastLine →
      b.lastLine ≤ a.lastLine) : Nested ds := by
  -- It may be assumed that `a` starts first.
  have ordered : ∀ a ∈ ds, ∀ b ∈ ds, a.firstLine < b.firstLine → a.Apart b ∨ a.Encloses b := by
    intro a mem_a b mem_b lt
    by_cases clear : a.lastLine < b.firstLine
    · exact .inl (.inl clear)
    · exact .inr ⟨Nat.le_of_lt lt, ends a mem_a b mem_b lt (Nat.not_lt.mp clear)⟩
  intro a mem_a b mem_b
  rcases Nat.lt_trichotomy a.firstLine b.firstLine with lt | eq | lt
  · exact (ordered a mem_a b mem_b lt).imp_right .inl
  · obtain rfl := alone a mem_a b mem_b eq
    exact .inr (.inl ⟨Nat.le_refl _, Nat.le_refl _⟩)
  · exact (ordered b mem_b a mem_a lt).imp Or.symm .inr

end Definition

namespace Outline

/-! ## The shortest definition -/

theorem mem_of_shortest? {ds : List Definition} {m : Definition} (found : shortest? ds = some m) :
    m ∈ ds := by
  induction ds generalizing m with
  | nil => cases found
  | cons d rest ih =>
    rw [shortest?] at found
    split at found
    next =>
      cases found
      exact List.mem_cons_self
    next other shortest =>
      split at found
      · cases found
        exact List.mem_cons_of_mem d (ih shortest)
      · cases found
        exact List.mem_cons_self

theorem shortest?_eq_none_iff {ds : List Definition} : shortest? ds = none ↔ ds = [] := by
  constructor
  · intro nothing
    cases ds with
    | nil => rfl
    | cons d rest =>
      rw [shortest?] at nothing
      split at nothing
      · cases nothing
      · split at nothing <;> cases nothing
  · rintro rfl
    rfl

theorem lineCount_le_of_shortest? {ds : List Definition} {m : Definition}
    (found : shortest? ds = some m) : ∀ d ∈ ds, m.lineCount ≤ d.lineCount := by
  induction ds generalizing m with
  | nil => cases found
  | cons first rest ih =>
    intro d mem
    rw [shortest?] at found
    split at found
    next none_ =>
      cases found
      rw [shortest?_eq_none_iff.mp none_, List.mem_singleton] at mem
      subst mem
      exact Nat.le_refl _
    next other shortest =>
      have least := ih shortest
      split at found
      next lt =>
        cases found
        rcases List.mem_cons.mp mem with rfl | later
        · exact Nat.le_of_lt lt
        · exact least d later
      next ge =>
        cases found
        rcases List.mem_cons.mp mem with rfl | later
        · exact Nat.le_refl _
        · exact Nat.le_trans (Nat.not_lt.mp ge) (least d later)

/-! ## The innermost definition -/

/-- **Among nested definitions the shortest one is the innermost.**  If a line is covered at all,
there is an innermost definition that covers it; all others that cover it start before that one and
enclose it. -/
theorem innermost?_of_nested {o : Outline}
    (alone : ∀ a ∈ o.definitions, ∀ b ∈ o.definitions, a.firstLine = b.firstLine → a = b)
    (nested : Definition.Nested o.definitions) {line : Nat}
    (covered : ∃ d ∈ o.definitions, d.covers line = true) :
    ∃ m, o.innermost? line = some m ∧ m ∈ o.definitions ∧ m.covers line = true ∧
      ∀ d ∈ o.definitions, d.covers line = true → d ≠ m →
        d.firstLine < m.firstLine ∧ d.Encloses m := by
  obtain ⟨d₀, mem₀, covers₀⟩ := covered
  cases found : o.innermost? line with
  | none =>
    have mem : d₀ ∈ o.definitions.filter (·.covers line) := List.mem_filter.mpr ⟨mem₀, covers₀⟩
    rw [shortest?_eq_none_iff.mp found] at mem
    exact absurd mem List.not_mem_nil
  | some m =>
    obtain ⟨mem_m, covers_m⟩ := List.mem_filter.mp (mem_of_shortest? found)
    refine ⟨m, rfl, mem_m, covers_m, ?_⟩
    intro d mem covers ne
    have le := lineCount_le_of_shortest? found d (List.mem_filter.mpr ⟨mem, covers⟩)
    have other : d.firstLine ≠ m.firstLine := fun eq => ne (alone d mem m mem_m eq)
    obtain ⟨first, last⟩ := Definition.covers_iff.mp covers
    obtain ⟨first_m, last_m⟩ := Definition.covers_iff.mp covers_m
    rcases nested d mem m mem_m with apart | encloses | encloses
    · -- They share the line.
      rcases apart with lt | lt <;> omega
    · exact ⟨Nat.lt_of_le_of_ne encloses.1 other, encloses⟩
    · -- Then `d` would be shorter.
      obtain ⟨above, below⟩ := encloses
      rw [Definition.lineCount, Definition.lineCount] at le
      omega

end Outline
end CodeGloss
