import CodeGloss.Detection
import CodeGloss.Proofs.Block.Bounds
import CodeGloss.Proofs.Header.Blank
import CodeGloss.Proofs.Text.Lines
import Mathlib.Data.List.Basic
import Mathlib.Data.List.Pairwise

/-!
# What detection finds

Detection goes through the lines of a text from above, and what it finds is put in order and freed
of repetitions afterwards.  Here the outline of a text is described without going through anything:
it holds one definition for each position at which there is a header whose block has an end
(`Detection.definitionOn?`), in the order of the positions, and no other definition.

The definitions of an outline start on different lines, one below the other.  So there is nothing to
put in order and nothing to leave out (`Outline.ofCandidates_of_pairwise`).
-/

namespace CodeGloss

namespace Detection

/-- The definition that starts at a position of `lines`, if there is a header and its block has an
end.  Its text is the lines from there to the end. -/
def definitionOn? (options : Block.Options) (hint : Hint) (lines : List Line) (i : Nat) :
    Option Definition :=
  lines[i]?.bind fun line =>
    (Header.recognize hint line).bind fun h =>
      (Block.endOf? options h.style lines i).map fun last =>
        { kind := h.kind
          name := h.name
          firstLine := i + 1
          lastLine := last + 1
          text := String.ofList (Line.joined ((lines.take (last + 1)).drop i)) }

variable (options : Block.Options) (hint : Hint)

/-! ## The scan -/

/-- What a line and the lines after it yield is what their position yields. -/
theorem definitionAt?_eq {lines rest : List Line} {header : Line} {i : Nat}
    (here : lines.drop i = header :: rest) :
    definitionAt? options hint (i + 1) header rest = definitionOn? options hint lines i := by
  unfold definitionAt? definitionOn?
  rw [(Line.of_drop_eq_cons here).1, Option.bind_some]
  cases Header.recognize hint header with
  | none => rfl
  | some h =>
    simp only [Option.bind_some, Block.endOf?, here]
    cases Block.extent? options h.style header rest with
    | none => rfl
    | some extent =>
      have text : (lines.take (i + extent + 1)).drop i = header :: rest.take extent := by
        rw [List.drop_take, here, show i + extent + 1 - i = extent + 1 by omega,
          List.take_succ_cons]
      simp only [Option.map_some, text, show i + 1 + extent = i + extent + 1 by omega]

/-- The scan from a position on yields what the positions yield. -/
theorem candidates_eq {lines rest : List Line} {i : Nat} (here : lines.drop i = rest) :
    candidates options hint (i + 1) rest =
      (List.range' i rest.length).filterMap (definitionOn? options hint lines) := by
  induction rest generalizing i with
  | nil => rfl
  | cons header rest ih =>
    rw [candidates, definitionAt?_eq options hint here, List.length_cons, List.range'_succ,
      ih (Line.of_drop_eq_cons here).2.1]
    cases found : definitionOn? options hint lines i with
    | none => rw [List.filterMap_cons_none found]
    | some d => rw [List.filterMap_cons_some found]

/-! ## What is found -/

section Found

variable {options hint} {lines : List Line} {i : Nat} {d : Definition}

/-- A definition starts on the line of its position and ends within the text. -/
theorem definitionOn?_bounds (found : definitionOn? options hint lines i = some d) :
    d.firstLine = i + 1 ∧ d.firstLine ≤ d.lastLine ∧ d.lastLine ≤ lines.length := by
  obtain ⟨line, -, found⟩ := Option.bind_eq_some_iff.mp found
  obtain ⟨h, -, found⟩ := Option.bind_eq_some_iff.mp found
  obtain ⟨last, ends, rfl⟩ := Option.map_eq_some_iff.mp found
  obtain ⟨le, lt⟩ := Block.endOf?_bounds ends
  exact ⟨rfl, Nat.succ_le_succ le, lt⟩

example :
    definitionOn? {} none (Line.ofText "\ndef f():\n  x\n\ny".toList) 1 =
      some ⟨.function, "f", 2, 3, "def f():\n  x"⟩ := by
  decide

/-- No definition starts on a blank line. -/
theorem definitionOn?_of_isAllBlank {line : Line} (here : lines[i]? = some line)
    (blank : Text.isAllBlank line = true) : definitionOn? options hint lines i = none := by
  rw [definitionOn?, here, Option.bind_some, Header.recognize_of_isAllBlank hint blank]
  rfl

end Found

/-- The definitions of positions in order are in the order of their first lines. -/
theorem pairwise_firstLine (lines : List Line) (n : Nat) :
    ((List.range n).filterMap (definitionOn? options hint lines)).Pairwise
      fun a b => a.firstLine < b.firstLine := by
  refine List.Pairwise.filterMap _ ?_ List.pairwise_lt_range
  intro i j lt a here b there
  have first := (definitionOn?_bounds here).1
  have second := (definitionOn?_bounds there).1
  omega

end Detection
end CodeGloss
