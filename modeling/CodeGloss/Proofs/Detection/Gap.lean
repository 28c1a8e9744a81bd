import CodeGloss.Proofs.Block.Gap
import CodeGloss.Proofs.Detection.Surroundings

/-!
# Empty lines are neutral

With an empty line put into a text there are the same definitions in the same order, and each of
their lines is where it is now (`empty_lines_are_neutral`).

A header above the empty line yields what it yielded, with one more line if the block reaches beyond
it (`Block.extent?_gap`).  A header below it is one line further down.  On the empty line itself
there is no header.
-/

namespace CodeGloss

open Line (renumbered renumbered_of_le renumbered_of_lt)

/-- The definition when an empty line is put in after the first `above` lines of its text: its lines
have the numbers that they have then, and the empty line is one of them if it comes between them. -/
def Definition.gapped (above : Nat) (d : Definition) : Definition :=
  { d with
    firstLine := renumbered above d.firstLine
    lastLine := renumbered above d.lastLine
    text :=
      if d.firstLine ≤ above ∧ above < d.lastLine then
        String.ofList (Text.gapped (above + 1 - d.firstLine) d.text.toList)
      else d.text }

theorem Definition.gapped_of_lt {above : Nat} {d : Definition} (below : above < d.firstLine)
    (le : d.firstLine ≤ d.lastLine) : d.gapped above = d.lowered 1 := by
  rw [gapped, lowered, renumbered_of_lt below, renumbered_of_lt (Nat.lt_of_lt_of_le below le),
    if_neg fun between => Nat.not_le.mpr below between.1]

namespace Detection

variable {options : Block.Options} {hint : Hint}

/-- A candidate does not end before it starts. -/
theorem firstLine_le_lastLine {number : Nat} {lines : List Line} {d : Definition}
    (mem : d ∈ candidates options hint number lines) : d.firstLine ≤ d.lastLine := by
  obtain ⟨front, header, rest, -, found⟩ := mem_candidates_iff.mp mem
  obtain ⟨_, _, -, -, rfl⟩ := definitionAt?_eq_some_iff.mp found
  exact Nat.le_add_right _ _

/-- The text of a block with an empty line put in after `rest`. -/
theorem joined_gap {header : Line} {rest back : List Line} {extent : Nat}
    (solid : ∀ line ∈ header :: rest, '\n' ∉ line) (more : back ≠ [])
    (reaches : rest.length < extent) :
    Line.joined (header :: (rest ++ [] :: back).take (extent + 1)) =
      Text.gapped (rest.length + 1) (Line.joined (header :: (rest ++ back).take extent)) := by
  obtain ⟨beyond, rfl⟩ := Nat.exists_eq_add_of_lt reaches
  have lines : (rest ++ back).take (rest.length + beyond + 1) = rest ++ back.take (beyond + 1) :=
    List.take_length_add_append (beyond + 1)
  have lines' : (rest ++ [] :: back).take (rest.length + beyond + 1 + 1) =
      rest ++ [] :: back.take (beyond + 1) :=
    List.take_length_add_append (beyond + 2)
  rw [lines, lines']
  have taken : back.take (beyond + 1) ≠ [] := by
    obtain ⟨line, back, rfl⟩ := List.exists_cons_of_ne_nil more
    simp
  exact (Line.gapped_joined solid taken).symm

/-- A line above the gap yields what it yielded, with the gap. -/
theorem definitionAt?_gap {number above : Nat} {header : Line} {rest back : List Line}
    (solid : ∀ line ∈ header :: rest, '\n' ∉ line) (more : back ≠ [])
    (eq : number + rest.length = above) :
    definitionAt? options hint number header (rest ++ [] :: back) =
      (definitionAt? options hint number header (rest ++ back)).map (Definition.gapped above) := by
  unfold definitionAt?
  cases Header.recognize hint header with
  | none => rfl
  | some h =>
    simp only [Block.extent?_gap options h.style header rest more]
    cases Block.extent? options h.style header (rest ++ back) with
    | none => rfl
    | some extent =>
      simp only [Option.map_some, Option.some.injEq, Definition.gapped, Definition.mk.injEq,
        true_and]
      have starts : number ≤ above := by omega
      subst eq
      refine ⟨(renumbered_of_le starts).symm, (Line.renumbered_add number rest.length extent).symm,
        ?_⟩
      by_cases reaches : rest.length < extent
      · rw [renumbered_of_lt reaches, if_pos ⟨starts, by omega⟩, joined_gap solid more reaches,
          String.toList_ofList, show number + rest.length + 1 - number = rest.length + 1 by omega]
      · have within : extent ≤ rest.length := Nat.le_of_not_lt reaches
        rw [renumbered_of_le within, if_neg fun between => reaches (by omega),
          List.take_append_of_le_length within, List.take_append_of_le_length within]

/-- The candidates of lines with an empty line put in after `front`. -/
theorem candidates_gap {number above : Nat} {front back : List Line}
    (solid : ∀ line ∈ front, '\n' ∉ line) (more : back ≠ [])
    (eq : number + front.length = above + 1) :
    candidates options hint number (front ++ [] :: back) =
      (candidates options hint number (front ++ back)).map (Definition.gapped above) := by
  induction front generalizing number with
  | nil =>
    rw [List.length_nil, Nat.add_zero] at eq
    subst eq
    have nothing : definitionAt? options hint (above + 1) [] back = none := by
      rw [definitionAt?, Header.recognize_of_isAllBlank hint rfl]
    rw [List.nil_append, List.nil_append, candidates, nothing]
    show candidates options hint (above + 1 + 1) back = _
    rw [candidates_add]
    refine List.map_congr_left fun d mem => ?_
    exact (Definition.gapped_of_lt (le_firstLine_of_mem_candidates mem)
      (firstLine_le_lastLine mem)).symm
  | cons header rest ih =>
    rw [List.length_cons] at eq
    have yields : definitionAt? options hint number header (rest ++ [] :: back) = _ :=
      definitionAt?_gap solid more (show number + rest.length = above by omega)
    have others := ih (fun line mem => solid line (List.mem_cons_of_mem _ mem))
      (show number + 1 + rest.length = above + 1 by omega)
    rw [List.cons_append, List.cons_append, candidates, candidates, yields, others]
    cases definitionAt? options hint number header (rest ++ back) with
    | none => rfl
    | some d => rfl

/-- **Empty lines are neutral.**  Let an empty line be put into a text, after as many of its lines as
one likes but not after the last one.  Then the text has this line more, and the definitions are the
same in the same order.  All their lines that come after the empty one are one further down, the
first and the last ones alike, and the text of a definition has the empty line where it comes between
its lines. -/
theorem empty_lines_are_neutral (options : Block.Options) (hint : Hint) (text : String)
    (above : Nat) (within : above < (Line.ofText text.toList).length) :
    let lines := Line.ofText text.toList
    let gapped := String.ofList (Text.gapped above text.toList)
    Line.ofText gapped.toList = lines.take above ++ [] :: lines.drop above ∧
      (Outline.ofText options hint gapped).definitions =
        (Outline.ofText options hint text).definitions.map fun d =>
          { kind := d.kind
            name := d.name
            firstLine := if d.firstLine < above + 1 then d.firstLine else d.firstLine + 1
            lastLine := if d.lastLine < above + 1 then d.lastLine else d.lastLine + 1
            text :=
              if d.firstLine < above + 1 ∧ above + 1 ≤ d.lastLine then
                String.ofList (Text.gapped (above + 1 - d.firstLine) d.text.toList)
              else d.text } := by
  intro lines gapped
  have lines_gapped : Line.ofText gapped.toList = lines.take above ++ [] :: lines.drop above := by
    rw [String.toList_ofList, Line.ofText_gapped within]
  refine ⟨lines_gapped, ?_⟩
  have solid : ∀ line ∈ lines.take above, '\n' ∉ line := fun line mem =>
    Line.feed_not_mem_of_mem_ofText (List.mem_of_mem_take mem)
  have more : lines.drop above ≠ [] := by
    rw [Ne, List.drop_eq_nil_iff]
    exact Nat.not_le.mpr within
  have height : 1 + (lines.take above).length = above + 1 := by
    rw [List.length_take, Nat.min_eq_left (Nat.le_of_lt within), Nat.add_comm]
  rw [definitions_ofText, definitions_ofText, lines_gapped, candidates_gap solid more height,
    List.take_append_drop]
  simp only [Nat.lt_succ_iff, Nat.succ_le_iff]
  rfl

/-- Here the empty line comes into a comment that holds a brace, inside a body that opens on the
third line. -/
theorem empty_line_in_comment :
    let text := "fn f(a: u8,\n  b: u8)\n\x7b /*\n \x7d */\n\x7d\nfn g() \x7b\x7d"
    let gapped := String.ofList (Text.gapped 3 text.toList)
    3 < (Line.ofText text.toList).length ∧
      (Outline.ofText {} (some .rust) text).definitions =
        [⟨.function, "f", 1, 5, "fn f(a: u8,\n  b: u8)\n\x7b /*\n \x7d */\n\x7d"⟩,
          ⟨.function, "g", 6, 6, "fn g() \x7b\x7d"⟩] ∧
      (Outline.ofText {} (some .rust) gapped).definitions =
        [⟨.function, "f", 1, 6, "fn f(a: u8,\n  b: u8)\n\x7b /*\n\n \x7d */\n\x7d"⟩,
          ⟨.function, "g", 7, 7, "fn g() \x7b\x7d"⟩] := by
  intro text gapped
  have within : 3 < (Line.ofText text.toList).length := by decide
  have found : (Outline.ofText {} (some .rust) text).definitions =
      [⟨.function, "f", 1, 5, "fn f(a: u8,\n  b: u8)\n\x7b /*\n \x7d */\n\x7d"⟩,
        ⟨.function, "g", 6, 6, "fn g() \x7b\x7d"⟩] := by
    rw [definitions_ofText, (String.toList_ofList : text.toList = _)]
    decide
  refine ⟨within, found, ?_⟩
  rw [(empty_lines_are_neutral {} (some .rust) text 3 within).2, found]
  decide

end Detection
end CodeGloss
