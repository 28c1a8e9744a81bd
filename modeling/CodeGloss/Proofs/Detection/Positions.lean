import CodeGloss.Proofs.Block.Positions
import CodeGloss.Proofs.Detection.Exact
import CodeGloss.Proofs.Outline.Candidates

/-!
# Detection by positions

Detection as one goes about it with positions: the end of a block is searched for among all lines,
and the text of a definition is cut out of them, from the position of its header to that of its end.
To cut fails where the ends lie outside of the lines or the wrong way round.

Nothing of it fails (`Positional.outline?_eq`), whatever the text, the hint and the options are.  A
block that starts within a text ends within it, and not before it starts.
-/

namespace CodeGloss
namespace Detection
namespace Positional

/-- The lines from one position to another one, if these are positions, in that order.  An end right
before the start cuts out nothing. -/
def between? (first last : Nat) (lines : List Line) : Option (List Line) :=
  if first ≤ last + 1 ∧ last + 1 ≤ lines.length then some ((lines.take (last + 1)).drop first)
  else none

/-- The definitions that start on the given lines, the first of which has the position `i` among all
`lines`. -/
def candidates? (options : Block.Options) (hint : Hint) (lines : List Line) :
    Nat → List Line → Option (List Definition)
  | _, [] => some []
  | i, line :: rest =>
    match Header.recognize hint line with
    | none => candidates? options hint lines (i + 1) rest
    | some h =>
      match Block.Positional.blockEnd? options h.style lines i with
      | none => none
      | some none => candidates? options hint lines (i + 1) rest
      | some (some last) =>
        match between? i last lines with
        | none => none
        | some piece =>
          (candidates? options hint lines (i + 1) rest).map fun others =>
            { kind := h.kind
              name := h.name
              firstLine := i + 1
              lastLine := last + 1
              text := String.ofList (Line.joined piece) } :: others

/-- The outline of a source text. -/
def outline? (options : Block.Options) (hint : Hint) (text : String) : Option Outline :=
  if Text.isAllBlank text.toList then some {}
  else
    (candidates? options hint (Line.ofText text.toList) 0 (Line.ofText text.toList)).map
      .ofCandidates

variable (options : Block.Options) (hint : Hint)

theorem between?_of_endOf? {style : Block.Style} {lines : List Line} {i last : Nat}
    (ends : Block.endOf? options style lines i = some last) :
    between? i last lines = some ((lines.take (last + 1)).drop i) := by
  obtain ⟨le, lt⟩ := Block.endOf?_bounds ends
  exact if_pos ⟨by omega, lt⟩

/-- The scan by positions does not fail and yields what the positions yield. -/
theorem candidates?_eq {lines rest : List Line} {i : Nat} (here : lines.drop i = rest) :
    candidates? options hint lines i rest =
      some ((List.range' i rest.length).filterMap (definitionOn? options hint lines)) := by
  induction rest generalizing i with
  | nil => rfl
  | cons line rest ih =>
    obtain ⟨header, next, -⟩ := Line.of_drop_eq_cons here
    have lt : i < lines.length := (List.getElem?_eq_some_iff.mp header).1
    rw [candidates?, ih next, List.length_cons, List.range'_succ]
    cases found : Header.recognize hint line with
    | none =>
      have nothing : definitionOn? options hint lines i = none := by
        rw [definitionOn?, header, Option.bind_some, found, Option.bind_none]
      rw [List.filterMap_cons_none nothing]
    | some h =>
      simp only [Block.Positional.blockEnd?_eq options h.style lt]
      cases ends : Block.endOf? options h.style lines i with
      | none =>
        have nothing : definitionOn? options hint lines i = none := by
          rw [definitionOn?, header, Option.bind_some, found, Option.bind_some, ends,
            Option.map_none]
        rw [List.filterMap_cons_none nothing]
      | some last =>
        have something : definitionOn? options hint lines i =
            some ⟨h.kind, h.name, i + 1, last + 1,
              String.ofList (Line.joined ((lines.take (last + 1)).drop i))⟩ := by
          rw [definitionOn?, header, Option.bind_some, found, Option.bind_some, ends,
            Option.map_some]
        simp only [between?_of_endOf? options ends, Option.map_some,
          List.filterMap_cons_some something]

end Positional

/-! ## Whole texts -/

variable (options : Block.Options) (hint : Hint)

/-- All lines of a text together yield what their positions yield. -/
theorem candidates_ofText (lines : List Line) :
    candidates options hint 1 lines =
      (List.range lines.length).filterMap (definitionOn? options hint lines) := by
  rw [List.range_eq_range']
  exact candidates_eq options hint List.drop_zero

/-- On blank lines there is nothing to be found. -/
theorem filterMap_of_isAllBlank {lines : List Line}
    (blank : ∀ line ∈ lines, Text.isAllBlank line = true) :
    (List.range lines.length).filterMap (definitionOn? options hint lines) = [] := by
  rw [List.filterMap_eq_nil_iff]
  intro i mem
  have here := List.getElem?_eq_getElem (List.mem_range.mp mem)
  exact definitionOn?_of_isAllBlank here (blank _ (List.mem_of_getElem? here))

/-- An outline holds what the positions yield, whether the text was looked through or not. -/
theorem ofText_eq (text : String) :
    Outline.ofText options hint text =
      ⟨(List.range (Line.ofText text.toList).length).filterMap
        (definitionOn? options hint (Line.ofText text.toList))⟩ := by
  unfold Outline.ofText
  split
  next blank =>
    rw [filterMap_of_isAllBlank options hint fun line => Line.isAllBlank_of_mem_ofText blank]
  next =>
    rw [candidates_ofText, Outline.ofCandidates_of_pairwise (pairwise_firstLine options hint _ _)]

/-- No two definitions of a text have one key. -/
theorem nodup_key_ofText (text : String) :
    ((Outline.ofText options hint text).definitions.map Definition.key).Nodup := by
  rw [ofText_eq]
  exact Outline.nodup_key_of_pairwise (pairwise_firstLine options hint _ _)

/-- **Nothing fails on the way to an outline.** -/
theorem Positional.outline?_eq (text : String) :
    Positional.outline? options hint text = some (Outline.ofText options hint text) := by
  unfold Positional.outline? Outline.ofText
  split
  · rfl
  · rw [candidates_ofText, Positional.candidates?_eq options hint List.drop_zero,
      List.range_eq_range']
    rfl

/-- **Detection is exact.**  The outline of a text holds one definition for each position at which
there is a header whose block has an end, in that order, and no other one: of the kind and name of
the header, from the line of the header to that of the end, with the text of these lines.  So its
definitions start one below the other and within the text, no two have one key, nothing is left out
of the candidates as a repetition, a blank text would yield nothing if it were looked through, and
nothing fails on the way. -/
theorem detection_is_exact (text : String) :
    let lines := Line.ofText text.toList
    let found := (Outline.ofText options hint text).definitions
    found = (List.range lines.length).filterMap (definitionOn? options hint lines) ∧
      found.Pairwise (fun a b => a.firstLine < b.firstLine) ∧
      (found.map Definition.key).Nodup ∧
      (∀ d ∈ found, 1 ≤ d.firstLine ∧ d.firstLine ≤ d.lastLine ∧ d.lastLine ≤ lines.length) ∧
      Outline.distinct [] (candidates options hint 1 lines) = candidates options hint 1 lines ∧
      Outline.ofText options hint text = .ofCandidates (candidates options hint 1 lines) ∧
      Positional.outline? options hint text = some (Outline.ofText options hint text) := by
  intro lines found
  have found_eq : found = (List.range lines.length).filterMap (definitionOn? options hint lines) :=
    congrArg Outline.definitions (ofText_eq options hint text)
  have below : found.Pairwise fun a b => a.firstLine < b.firstLine := by
    rw [found_eq]
    exact pairwise_firstLine options hint lines lines.length
  have same : candidates options hint 1 lines = found := by
    rw [candidates_ofText, found_eq]
  have nodup := Outline.nodup_key_of_pairwise below
  refine ⟨found_eq, below, nodup, ?_, ?_, ?_, Positional.outline?_eq options hint text⟩
  · intro d mem
    rw [found_eq] at mem
    obtain ⟨i, -, yields⟩ := List.mem_filterMap.mp mem
    obtain ⟨first, le, within⟩ := definitionOn?_bounds yields
    exact ⟨by omega, le, within⟩
  · rw [same]
    exact Outline.distinct_of_nodup nodup (by simp)
  · rw [same, Outline.ofCandidates_of_pairwise below]

end Detection
end CodeGloss
