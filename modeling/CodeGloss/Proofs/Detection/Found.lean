import CodeGloss.Proofs.Detection.Positions

/-!
# Where a definition was found

The definitions of a text are the candidates of its lines, as they are found
(`Detection.definitions_ofText`).  A candidate is what some line yields together with the lines after
it (`mem_candidates_iff`), that is, there is a header on the line and its block has an extent
(`definitionAt?_eq_some_iff`).

Of two candidates the one that starts first has the line of the other one among the lines after its
header (`exists_between`).
-/

namespace CodeGloss
namespace Detection

variable {options : Block.Options} {hint : Hint}

/-- The definitions of a text are the candidates of its lines. -/
theorem definitions_ofText (options : Block.Options) (hint : Hint) (text : String) :
    (Outline.ofText options hint text).definitions =
      candidates options hint 1 (Line.ofText text.toList) := by
  rw [ofText_eq, candidates_ofText]

/-- There is a definition where there is a header whose block has an extent. -/
theorem definitionAt?_eq_some_iff {number : Nat} {header : Line} {rest : List Line}
    {d : Definition} :
    definitionAt? options hint number header rest = some d ↔
      ∃ h extent, Header.recognize hint header = some h ∧
        Block.extent? options h.style header rest = some extent ∧
        d = ⟨h.kind, h.name, number, number + extent,
          String.ofList (Line.joined (header :: rest.take extent))⟩ := by
  constructor
  · intro found
    unfold definitionAt? at found
    split at found
    next => cases found
    next h recognized =>
      split at found
      next => cases found
      next extent within =>
        cases found
        exact ⟨h, extent, recognized, within, rfl⟩
  · rintro ⟨h, extent, recognized, within, rfl⟩
    simp only [definitionAt?, recognized, within]

theorem firstLine_of_definitionAt? {number : Nat} {header : Line} {rest : List Line}
    {d : Definition} (found : definitionAt? options hint number header rest = some d) :
    d.firstLine = number := by
  obtain ⟨_, _, -, -, rfl⟩ := definitionAt?_eq_some_iff.mp found
  rfl

/-- The candidates are what the lines yield, each with the lines after it. -/
theorem mem_candidates_iff {number : Nat} {lines : List Line} {d : Definition} :
    d ∈ candidates options hint number lines ↔
      ∃ (front : List Line) (header : Line) (rest : List Line), lines = front ++ header :: rest ∧
        definitionAt? options hint (number + front.length) header rest = some d := by
  induction lines generalizing number with
  | nil => simp [candidates]
  | cons line others ih =>
    -- Either the first line yields it, or it is a candidate of the others.
    have split_ : d ∈ candidates options hint number (line :: others) ↔
        definitionAt? options hint number line others = some d ∨
          d ∈ candidates options hint (number + 1) others := by
      rw [candidates]
      cases definitionAt? options hint number line others with
      | none => simp
      | some first => simp [eq_comm]
    rw [split_, ih]
    constructor
    · rintro (here | ⟨front, header, rest, rfl, found⟩)
      · exact ⟨[], line, others, rfl, here⟩
      · refine ⟨line :: front, header, rest, rfl, ?_⟩
        rwa [List.length_cons, show number + (front.length + 1) = number + 1 + front.length by omega]
    · rintro ⟨_ | ⟨first, front⟩, header, rest, eq, found⟩
      · rw [List.nil_append, List.cons.injEq] at eq
        obtain ⟨rfl, rfl⟩ := eq
        exact .inl found
      · rw [List.cons_append, List.cons.injEq] at eq
        obtain ⟨-, rfl⟩ := eq
        refine .inr ⟨front, header, rest, rfl, ?_⟩
        rwa [List.length_cons,
          show number + (front.length + 1) = number + 1 + front.length by omega] at found

theorem le_firstLine_of_mem_candidates {number : Nat} {lines : List Line} {d : Definition}
    (mem : d ∈ candidates options hint number lines) : number ≤ d.firstLine := by
  obtain ⟨front, header, rest, -, found⟩ := mem_candidates_iff.mp mem
  rw [firstLine_of_definitionAt? found]
  exact Nat.le_add_right _ _

theorem firstLine_lt_of_mem_candidates {number : Nat} {lines : List Line} {d : Definition}
    (mem : d ∈ candidates options hint number lines) : d.firstLine < number + lines.length := by
  obtain ⟨front, header, rest, rfl, found⟩ := mem_candidates_iff.mp mem
  rw [firstLine_of_definitionAt? found, List.length_append, List.length_cons]
  omega

/-- A line starts one candidate at most. -/
theorem eq_of_firstLine_eq {number : Nat} {lines : List Line} {a b : Definition}
    (mem_a : a ∈ candidates options hint number lines)
    (mem_b : b ∈ candidates options hint number lines) (eq : a.firstLine = b.firstLine) :
    a = b := by
  obtain ⟨front, header, rest, rfl, found⟩ := mem_candidates_iff.mp mem_a
  obtain ⟨front', header', rest', whole, found'⟩ := mem_candidates_iff.mp mem_b
  rw [firstLine_of_definitionAt? found, firstLine_of_definitionAt? found'] at eq
  obtain ⟨rfl, parts⟩ := List.append_inj whole (Nat.add_left_cancel eq)
  obtain ⟨rfl, rfl⟩ := List.cons.inj parts
  exact Option.some.inj (found.symm.trans found')

/-- Of two candidates the second starts among the lines after the header of the first. -/
theorem exists_between {number : Nat} {lines : List Line} {a b : Definition}
    (mem_a : a ∈ candidates options hint number lines)
    (mem_b : b ∈ candidates options hint number lines) (lt : a.firstLine < b.firstLine) :
    ∃ (front : List Line) (outer : Line) (between : List Line) (inner : Line) (rest : List Line),
      lines = front ++ outer :: (between ++ inner :: rest) ∧
      definitionAt? options hint (number + front.length) outer (between ++ inner :: rest) = some a ∧
      definitionAt? options hint (number + front.length + 1 + between.length) inner rest =
        some b := by
  obtain ⟨front, outer, after, rfl, found_a⟩ := mem_candidates_iff.mp mem_a
  obtain ⟨front', inner, rest, eq, found_b⟩ := mem_candidates_iff.mp mem_b
  rw [firstLine_of_definitionAt? found_a, firstLine_of_definitionAt? found_b] at lt
  rcases List.append_eq_append_iff.mp eq with ⟨middle, rfl, same⟩ | ⟨middle, rfl, -⟩
  · rcases middle with _ | ⟨first, between⟩
    · rw [List.append_nil] at lt
      omega
    · rw [List.cons_append, List.cons.injEq] at same
      obtain ⟨rfl, rfl⟩ := same
      refine ⟨front, outer, between, inner, rest, rfl, found_a, ?_⟩
      rwa [List.length_append, List.length_cons, show
        number + (front.length + (between.length + 1)) =
          number + front.length + 1 + between.length by omega] at found_b
  · rw [List.length_append] at lt
    omega

end Detection
end CodeGloss
