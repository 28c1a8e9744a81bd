import CodeGloss.Proofs.Detection.Found
import CodeGloss.Proofs.Text.Gap
import Mathlib.Data.List.Forall2

/-!
# Line terminators

A line ends at a line feed, and a carriage return before the line feed belongs to the terminator.  So
a text may have one terminator here and the other one there: if some of its line feeds get a carriage
return put before them (`Text.Reterminated`), the pieces between the line feeds get one at their end
or stay as they are (`Text.forall₂_splitOn`), and the lines are the same (`Line.ofText_reterminated`)
as long as no piece ended in a carriage return before.

What is found depends on the lines of a text alone, also where the text is all blank and is not looked
through.  The text of a definition is some of the lines with line feeds between them, so it is cut
into these lines again (`Text.splitOn_joined`), and whatever the lines lack it lacks as well.
-/

namespace CodeGloss

namespace Text

/-- The second text is the first one with a carriage return put before some of its line feeds. -/
inductive Reterminated : List Char → List Char → Prop where
  | nil : Reterminated [] []
  /-- A character stays as it is, be it a line feed or not. -/
  | same (c : Char) {s t : List Char} : Reterminated s t → Reterminated (c :: s) (c :: t)
  /-- A line feed gets a carriage return put before it. -/
  | returned {s t : List Char} : Reterminated s t → Reterminated ('\n' :: s) ('\r' :: '\n' :: t)

/-- What comes before may stay as it is. -/
theorem Reterminated.append_left (front : List Char) {s t : List Char} (changed : Reterminated s t) :
    Reterminated (front ++ s) (front ++ t) := by
  induction front with
  | nil => exact changed
  | cons c front ih => exact .same c ih

/-- The pieces between line feeds stay as they are or get a carriage return at their end. -/
theorem forall₂_splitOn {s t : List Char} (changed : Reterminated s t) :
    List.Forall₂ (fun piece piece' => piece' = piece ∨ piece' = piece ++ ['\r'])
      (splitOn (· == '\n') s) (splitOn (· == '\n') t) := by
  induction changed with
  | nil => exact .cons (.inl rfl) .nil
  | @same c s t _ ih =>
    rw [splitOn_cons, splitOn_cons]
    split
    · exact .cons (.inl rfl) ih
    · -- The character goes to the first piece on either side.
      generalize splitOn (· == '\n') s = pieces at ih
      generalize splitOn (· == '\n') t = pieces' at ih
      cases ih with
      | nil => exact .cons (.inl rfl) .nil
      | cons first others =>
        refine .cons ?_ others
        rcases first with rfl | rfl
        · exact .inl rfl
        · exact .inr rfl
  | @returned s t _ ih => exact .cons (.inr rfl) ih

/-- Lines that are put together are cut apart again. -/
theorem splitOn_joined {lines : List Line} (some_ : lines ≠ [])
    (solid : ∀ line ∈ lines, '\n' ∉ line) :
    splitOn (· == '\n') (Line.joined lines) = lines := by
  induction lines with
  | nil => exact absurd rfl some_
  | cons line rest ih =>
    rw [List.forall_mem_cons] at solid
    have inLine : ∀ c ∈ line, (c == '\n') = false := by
      intro c mem
      rw [beq_eq_false_iff_ne]
      rintro rfl
      exact solid.1 mem
    have alone : splitOn (· == '\n') line = [line] := by
      simpa using splitOn_append_of_not inLine []
    by_cases more : rest = []
    · subst more
      simpa [Line.joined] using alone
    · rw [Line.joined_cons line more, splitOn_append rfl, alone, ih more solid.2]
      rfl

end Text

namespace Line

theorem withoutReturn_concat (line : Line) : withoutReturn (line ++ ['\r']) = line := by
  rw [withoutReturn, if_pos List.getLast?_concat, List.dropLast_concat]

/-- Where no piece between line feeds ends in a carriage return, these pieces are the lines. -/
theorem ofText_eq_splitOn {text : List Char}
    (plain : ∀ piece ∈ Text.splitOn (· == '\n') text, piece.getLast? ≠ some '\r') :
    ofText text = Text.splitOn (· == '\n') text := by
  have kept : ∀ piece ∈ Text.splitOn (· == '\n') text, withoutReturn piece = piece :=
    fun piece mem => if_neg (plain piece mem)
  rw [ofText, List.map_congr_left kept, List.map_id']

/-- The lines do not tell with which terminators they end. -/
theorem ofText_reterminated {s t : List Char} (changed : Text.Reterminated s t)
    (plain : ∀ piece ∈ Text.splitOn (· == '\n') s, piece.getLast? ≠ some '\r') :
    ofText t = ofText s := by
  have alike := Text.forall₂_splitOn changed
  rw [ofText_eq_splitOn plain, ofText]
  generalize Text.splitOn (· == '\n') s = pieces at alike plain
  generalize Text.splitOn (· == '\n') t = pieces' at alike
  induction alike with
  | nil => rfl
  | @cons piece piece' pieces pieces' first _ ih =>
    rw [List.forall_mem_cons] at plain
    have same : withoutReturn piece' = piece := by
      rcases first with rfl | rfl
      · exact if_neg plain.1
      · exact withoutReturn_concat piece
    rw [List.map_cons, same, ih plain.2]

end Line

namespace Detection

/-- The lines in the text of a definition are lines of the source. -/
theorem mem_ofText_of_mem_text {options : Block.Options} {hint : Hint} {text : String}
    {d : Definition} (mem : d ∈ (Outline.ofText options hint text).definitions) {line : Line}
    (inside : line ∈ Text.splitOn (· == '\n') d.text.toList) : line ∈ Line.ofText text.toList := by
  rw [definitions_ofText] at mem
  obtain ⟨front, header, rest, lines_eq, found⟩ := mem_candidates_iff.mp mem
  obtain ⟨h, extent, -, -, rfl⟩ := definitionAt?_eq_some_iff.mp found
  have part : ∀ l ∈ header :: rest.take extent, l ∈ Line.ofText text.toList := by
    intro l kept
    rw [lines_eq]
    refine List.mem_append_right front ?_
    rcases List.mem_cons.mp kept with rfl | kept
    · exact List.mem_cons_self
    · exact List.mem_cons_of_mem header (List.mem_of_mem_take kept)
  have solid : ∀ l ∈ header :: rest.take extent, '\n' ∉ l := fun l kept =>
    Line.feed_not_mem_of_mem_ofText (part l kept)
  rw [String.toList_ofList, Text.splitOn_joined (List.cons_ne_nil _ _) solid] at inside
  exact part line inside

/-- **Line terminators do not matter.**  Two texts with the same lines have the same outline.  So let
no line of a text end in a carriage return, and put one before as many of its line feeds as one likes,
here and there or everywhere.  The outline is what it was, the texts of the definitions included, and
no line of these texts ends in a carriage return. -/
theorem terminators_do_not_matter (options : Block.Options) (hint : Hint) :
    (∀ text text' : String, Line.ofText text.toList = Line.ofText text'.toList →
      Outline.ofText options hint text' = Outline.ofText options hint text) ∧
    ∀ text text' : String,
      (∀ piece ∈ Text.splitOn (· == '\n') text.toList, piece.getLast? ≠ some '\r') →
      Text.Reterminated text.toList text'.toList →
      Outline.ofText options hint text' = Outline.ofText options hint text ∧
        ∀ d ∈ (Outline.ofText options hint text').definitions,
          ∀ line ∈ Text.splitOn (· == '\n') d.text.toList, line.getLast? ≠ some '\r' := by
  have same_lines : ∀ text text' : String, Line.ofText text.toList = Line.ofText text'.toList →
      Outline.ofText options hint text' = Outline.ofText options hint text := by
    intro text text' same
    rw [ofText_eq, ofText_eq, same]
  refine ⟨same_lines, fun text text' plain changed => ?_⟩
  have lines := Line.ofText_reterminated changed plain
  refine ⟨same_lines text text' lines.symm, fun d mem line inside => ?_⟩
  have of_source := mem_ofText_of_mem_text mem inside
  rw [lines, Line.ofText_eq_splitOn plain] at of_source
  exact plain line of_source

/-- The first line holds an ideographic space alone, a carriage return stands within the header, and
two of the four line feeds get another one. -/
theorem terminators_do_not_matter_mixed :
    let inner := "def f(a,\r b):\n\n  pass"
    let text := String.ofList ('\u3000' :: '\n' :: (inner.toList ++ ['\n']))
    let text' := String.ofList ('\u3000' :: '\r' :: '\n' :: (inner.toList ++ ['\r', '\n']))
    let f : Definition := ⟨.function, "f", 2, 4, inner⟩
    (∀ piece ∈ Text.splitOn (· == '\n') text.toList, piece.getLast? ≠ some '\r') ∧
      Text.Reterminated text.toList text'.toList ∧
      (Outline.ofText {} (some .python) text).definitions = [f] ∧
      (Outline.ofText {} (some .python) text').definitions = [f] ∧
      ∀ line ∈ Text.splitOn (· == '\n') f.text.toList, line.getLast? ≠ some '\r' := by
  intro inner text text' f
  have plain : ∀ piece ∈ Text.splitOn (· == '\n') text.toList, piece.getLast? ≠ some '\r' := by
    decide
  have changed : Text.Reterminated text.toList text'.toList := by
    show Text.Reterminated (String.ofList _).toList (String.ofList _).toList
    rw [String.toList_ofList, String.toList_ofList]
    exact .same _ (.returned (.append_left _ (.returned .nil)))
  have found : (Outline.ofText {} (some .python) text).definitions = [f] := by
    rw [definitions_ofText]
    decide
  obtain ⟨same, free⟩ := (terminators_do_not_matter {} (some .python)).2 text text' plain changed
  rw [same, found] at free
  exact ⟨plain, changed, found, by rw [same, found], free f List.mem_cons_self⟩

end Detection
end CodeGloss
