import CodeGloss.Proofs.Detection.Positions
import CodeGloss.View.Rows

/-!
# The rows of a view

A view has a row for each line that is shown, whatever they are painted with
(`View.length_rows_build`).  The line on which a definition starts is always shown: what is left
out, the last line of a text that ends with a line feed, is empty, and no definition starts on an
empty line (`View.firstLine_of_mem_ofText`).
-/

namespace CodeGloss

/-- Painting leaves no line out. -/
theorem Painting.length_lines_paint (path : Option String) (hint : Hint) (theme : String)
    (lines : List Line) (firsts : Grammar.FirstLines) :
    (paint path hint theme lines firsts).lines.length = lines.length := by
  unfold paint
  split
  · exact List.length_map _
  · exact List.length_map _

namespace View

theorem length_rowsFrom (o : Outline) (selection : Selection) (number : Nat)
    (painted : List (Line × List Segment)) :
    (rowsFrom o selection number painted).length = painted.length := by
  induction painted generalizing number with
  | nil => rfl
  | cons first rest ih => rw [rowsFrom, List.length_cons, List.length_cons, ih]

/-- There is a row for each line that is shown. -/
theorem length_rows_build (text : String) (o : Outline) (selection : Selection) (hint : Hint)
    (path : Option String) (theme : String) (firsts : Grammar.FirstLines) :
    (build text o selection hint path theme firsts).rows.length = (shownLines text).length := by
  simp only [build, length_rowsFrom, List.length_zip, Painting.length_lines_paint, Nat.min_self]

/-- Of the files on a disk it matters only what the file of the text is taken for. -/
theorem build_congr {text : String} {o : Outline} {selection : Selection} {hint : Hint}
    {path : String} {theme : String} {firsts firsts' : Grammar.FirstLines}
    (same : Grammar.ofPath? firsts path = Grammar.ofPath? firsts' path) :
    build text o selection hint (some path) theme firsts =
      build text o selection hint (some path) theme firsts' := by
  simp only [build, Painting.paint, Grammar.choose, Option.bind_some, same]

/-- Every line is shown on which there is something. -/
theorem lt_length_shownLines {text : String} {i : Nat} {line : Line}
    (here : (Line.ofText text.toList)[i]? = some line) (something : line ≠ []) :
    i < (shownLines text).length := by
  have lt := (List.getElem?_eq_some_iff.mp here).1
  simp only [shownLines]
  split
  next empty =>
    -- The empty text has one line, with nothing on it.
    have none_ : text = "" := by simpa using empty
    subst none_
    have first : i = 0 := Nat.lt_one_iff.mp lt
    subst first
    exact absurd (Option.some.inj here).symm something
  next =>
    split
    next ends =>
      obtain ⟨-, last⟩ := Bool.and_eq_true_iff.mp ends
      have last : (Line.ofText text.toList).getLast? = some [] := by simpa using last
      rw [List.getLast?_eq_getElem?] at last
      have before : i ≠ (Line.ofText text.toList).length - 1 := by
        rintro rfl
        exact something (Option.some.inj (here.symm.trans last))
      rw [List.length_dropLast]
      omega
    next => exact lt

/-- The line on which a definition starts is shown. -/
theorem firstLine_of_mem_ofText {options : Block.Options} {hint : Hint} {text : String}
    {d : Definition} (mem : d ∈ (Outline.ofText options hint text).definitions) :
    1 ≤ d.firstLine ∧ d.firstLine ≤ (shownLines text).length := by
  rw [Detection.ofText_eq] at mem
  obtain ⟨i, within, found⟩ := List.mem_filterMap.mp mem
  have inside : i < (Line.ofText text.toList).length := List.mem_range.mp within
  have here := List.getElem?_eq_getElem inside
  have something : (Line.ofText text.toList)[i] ≠ [] := by
    intro empty
    rw [empty] at here
    rw [Detection.definitionOn?_of_isAllBlank here rfl] at found
    cases found
  have shown := lt_length_shownLines here something
  have first := (Detection.definitionOn?_bounds found).1
  omega

end View
end CodeGloss
