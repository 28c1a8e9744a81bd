import CodeGloss.Proofs.Block.Appended
import CodeGloss.Proofs.Detection.Found

/-!
# Text above and text below

What a line yields depends on that line and the lines after it.  So text that is put above another
one shifts the definitions of that one by its own number of lines, and does nothing else to them,
whatever it leaves open (`text_above_only_shifts`).

Text that is put below may have a say in what the lines before it yield, but only where these lines
had not settled the matter: a definition stays as it is or comes to end in the text below, and what
was no definition before and is one now ends there too (`text_below_keeps_closed`).
-/

namespace CodeGloss

/-- The definition, `n` lines further down. -/
def Definition.lowered (n : Nat) (d : Definition) : Definition :=
  { d with firstLine := d.firstLine + n, lastLine := d.lastLine + n }

/-- Texts that are put together with a line feed between them have the lines of both. -/
theorem Line.ofText_feed (above below : String) :
    ofText (above ++ "\n" ++ below).toList = ofText above.toList ++ ofText below.toList := by
  have text : (above ++ "\n" ++ below).toList = above.toList ++ '\n' :: below.toList := by simp
  rw [text, ofText_append]

namespace Detection

/-! ## Text above -/

section Above

variable (options : Block.Options) (hint : Hint)

/-- The number of a line is only passed on. -/
theorem definitionAt?_add (n number : Nat) (header : Line) (rest : List Line) :
    definitionAt? options hint (number + n) header rest =
      (definitionAt? options hint number header rest).map (Definition.lowered n) := by
  unfold definitionAt?
  cases Header.recognize hint header with
  | none => rfl
  | some h =>
    cases within : Block.extent? options h.style header rest with
    | none => simp only [within, Option.map_none]
    | some extent =>
      simp only [within, Option.map_some, Definition.lowered, Nat.add_right_comm number n extent]

theorem candidates_add (n number : Nat) (lines : List Line) :
    candidates options hint (number + n) lines =
      (candidates options hint number lines).map (Definition.lowered n) := by
  induction lines generalizing number with
  | nil => rfl
  | cons line rest ih =>
    rw [candidates, candidates, definitionAt?_add, Nat.add_right_comm number n 1, ih]
    cases definitionAt? options hint number line rest with
    | none => rfl
    | some d => rfl

/-- The candidates that start below some lines are those of the lines below. -/
theorem filter_candidates_append {number height : Nat} (above below : List Line)
    (eq : number + above.length = height + 1) :
    (candidates options hint number (above ++ below)).filter (fun d => height < d.firstLine) =
      candidates options hint (height + 1) below := by
  induction above generalizing number with
  | nil =>
    rw [List.length_nil, Nat.add_zero] at eq
    rw [List.nil_append, eq, List.filter_eq_self]
    intro d mem
    exact decide_eq_true (le_firstLine_of_mem_candidates mem)
  | cons line above ih =>
    rw [List.length_cons] at eq
    have later := ih (show number + 1 + above.length = height + 1 by omega)
    rw [List.cons_append, candidates]
    cases found : definitionAt? options hint number line (above ++ below) with
    | none => exact later
    | some d =>
      -- It starts on one of the lines above.
      have first := firstLine_of_definitionAt? found
      rw [← later]
      exact List.filter_cons_of_neg (by rw [decide_eq_true_eq]; omega)

end Above

/-- **Text above only shifts.**  Below a text that is put above another one there are the definitions
of this other one, in their order and as they are but for their lines, which are shifted by the
number of lines above. -/
theorem text_above_only_shifts (options : Block.Options) (hint : Hint) (above below : String) :
    let height := (Line.ofText above.toList).length
    (Outline.ofText options hint (above ++ "\n" ++ below)).definitions.filter
        (fun d => height < d.firstLine) =
      (Outline.ofText options hint below).definitions.map (Definition.lowered height) := by
  intro height
  have lines : 1 + (Line.ofText above.toList).length = height + 1 := Nat.add_comm 1 height
  rw [definitions_ofText, definitions_ofText, Line.ofText_feed,
    filter_candidates_append options hint _ _ lines, ← candidates_add, Nat.add_comm height 1]

/-! ## Text below -/

section Below

variable (options : Block.Options) (hint : Hint)

/-- With lines appended, a line yields what it yielded, or a definition that ends below. -/
theorem definitionAt?_append (number : Nat) (header : Line) (rest more : List Line) :
    definitionAt? options hint number header (rest ++ more) =
        definitionAt? options hint number header rest ∨
      ∃ d, definitionAt? options hint number header (rest ++ more) = some d ∧
        number + rest.length < d.lastLine := by
  unfold definitionAt?
  cases Header.recognize hint header with
  | none => exact .inl rfl
  | some h =>
    rcases Block.extent?_append options h.style header rest more with same | ⟨extent, lt, reaches⟩
    · left
      cases within : Block.extent? options h.style header rest with
      | none => simp only [same, within]
      | some extent =>
        have le := Block.extent?_le within
        simp only [same, within, List.take_append_of_le_length le]
    · right
      simp only [reaches]
      exact ⟨_, rfl, Nat.add_lt_add_left lt number⟩

/-- Two definitions on one line are of one kind and have one name. -/
theorem same_header {number : Nat} {header : Line} {rest rest' : List Line} {d d' : Definition}
    (found : definitionAt? options hint number header rest = some d)
    (found' : definitionAt? options hint number header rest' = some d') :
    d'.kind = d.kind ∧ d'.name = d.name ∧ d'.firstLine = d.firstLine := by
  obtain ⟨h, _, recognized, -, rfl⟩ := definitionAt?_eq_some_iff.mp found
  obtain ⟨h', _, recognized', -, rfl⟩ := definitionAt?_eq_some_iff.mp found'
  obtain rfl := Option.some.inj (recognized.symm.trans recognized')
  exact ⟨rfl, rfl, rfl⟩

variable {options hint} {number : Nat} {lines : List Line} {d : Definition}

/-- A candidate stays when lines are appended, or another one of its header ends below. -/
theorem mem_candidates_append (mem : d ∈ candidates options hint number lines)
    (more : List Line) :
    d ∈ candidates options hint number (lines ++ more) ∨
      ∃ d' ∈ candidates options hint number (lines ++ more),
        d'.kind = d.kind ∧ d'.name = d.name ∧ d'.firstLine = d.firstLine ∧
          number + lines.length ≤ d'.lastLine := by
  obtain ⟨front, header, rest, rfl, found⟩ := mem_candidates_iff.mp mem
  have whole : front ++ header :: rest ++ more = front ++ header :: (rest ++ more) := by
    rw [List.append_assoc, List.cons_append]
  rcases definitionAt?_append options hint (number + front.length) header rest more with
    same | ⟨d', reaches, lt⟩
  · left
    rw [← same] at found
    exact mem_candidates_iff.mpr ⟨front, header, rest ++ more, whole, found⟩
  · right
    obtain ⟨kind, name, firstLine⟩ := same_header options hint found reaches
    refine ⟨d', mem_candidates_iff.mpr ⟨front, header, rest ++ more, whole, reaches⟩, kind, name,
      firstLine, ?_⟩
    rw [List.length_append, List.length_cons]
    omega

/-- A candidate that starts above the appended lines was one before, or it ends below. -/
theorem mem_candidates_of_append {more : List Line}
    (mem : d ∈ candidates options hint number (lines ++ more))
    (above : d.firstLine < number + lines.length) :
    d ∈ candidates options hint number lines ∨ number + lines.length ≤ d.lastLine := by
  obtain ⟨front, header, after, eq, found⟩ := mem_candidates_iff.mp mem
  rw [firstLine_of_definitionAt? found] at above
  -- The header is one of the lines, as it starts above the others.
  obtain ⟨rest, rfl, rfl⟩ : ∃ rest, lines = front ++ header :: rest ∧ after = rest ++ more := by
    rcases List.append_eq_append_iff.mp eq with ⟨middle, rfl, -⟩ | ⟨middle, rfl, same⟩
    · rw [List.length_append] at above
      omega
    · rcases middle with _ | ⟨first, rest⟩
      · rw [List.append_nil] at above
        omega
      · rw [List.cons_append, List.cons.injEq] at same
        obtain ⟨rfl, rfl⟩ := same
        exact ⟨rest, rfl, rfl⟩
  rcases definitionAt?_append options hint (number + front.length) header rest more with
    same | ⟨d', reaches, lt⟩
  · left
    rw [same] at found
    exact mem_candidates_iff.mpr ⟨front, header, rest, rfl, found⟩
  · right
    obtain rfl := Option.some.inj (found.symm.trans reaches)
    rw [List.length_append, List.length_cons]
    omega

end Below

/-- **Text below keeps what is closed.**  With text appended below, each definition is still there,
as it was or with the same header and an end in the text below; and of the definitions that start
above that text, those that were not there before have their end in it. -/
theorem text_below_keeps_closed (options : Block.Options) (hint : Hint) (text below : String) :
    let height := (Line.ofText text.toList).length
    let before := (Outline.ofText options hint text).definitions
    let after := (Outline.ofText options hint (text ++ "\n" ++ below)).definitions.filter
      (fun d => d.firstLine ≤ height)
    (∀ d ∈ before, d ∈ after ∨
        ∃ d' ∈ after, d'.kind = d.kind ∧ d'.name = d.name ∧ d'.firstLine = d.firstLine ∧
          height < d'.lastLine) ∧
      ∀ d ∈ after, d ∉ before → height < d.lastLine := by
  intro height before after
  have found : before = candidates options hint 1 (Line.ofText text.toList) :=
    definitions_ofText options hint text
  have mem_after : ∀ d, d ∈ after ↔
      d ∈ candidates options hint 1 (Line.ofText text.toList ++ Line.ofText below.toList) ∧
        d.firstLine < 1 + height := by
    intro d
    rw [List.mem_filter, definitions_ofText, Line.ofText_feed, decide_eq_true_eq, Nat.add_comm 1 height,
      Nat.lt_succ_iff]
  constructor
  · intro d mem
    rw [found] at mem
    have above := firstLine_lt_of_mem_candidates mem
    rcases mem_candidates_append mem (Line.ofText below.toList) with
      stays | ⟨d', mem', kind, name, firstLine, reaches⟩
    · exact .inl ((mem_after d).mpr ⟨stays, above⟩)
    · refine .inr ⟨d', (mem_after d').mpr ⟨mem', ?_⟩, kind, name, firstLine, by omega⟩
      rw [firstLine]
      exact above
  · intro d mem unknown
    obtain ⟨mem, above⟩ := (mem_after d).mp mem
    rcases mem_candidates_of_append mem above with known | reaches
    · rw [found] at unknown
      exact absurd known unknown
    · omega

end Detection
end CodeGloss
