import CodeGloss.Proofs.Detection.Found
import CodeGloss.Proofs.Header.Name
import CodeGloss.Proofs.Outline.Starts
import CodeGloss.Proofs.Text.Gap
import CodeGloss.Proofs.Text.Search
import CodeGloss.Proofs.View.Painted
import CodeGloss.Proofs.View.Rows
import Mathlib.Data.List.Perm.Subperm

/-!
# The view agrees with the outline

A text is walked over twice: once for its outline, and once more for its view, which leaves out
different lines and is painted on the way.  The two agree (`View.Agrees`): the rows are the lines of
the text, there is one marker for each definition, in the same order, on the row where it starts,
and at the place of its name, and the selected definition is the one that is marked as such.

It takes a painter that leaves out nothing and adds nothing.  And it takes that definitions start on
different lines, none of which is left out of the view, and that a name stands on its line, whatever
characters it is made of.
-/

namespace CodeGloss

/-- The name of a definition stands on the line on which it starts. -/
theorem Detection.infix_name {options : Block.Options} {hint : Hint} {text : String}
    {d : Definition} (mem : d ∈ (Outline.ofText options hint text).definitions)
    (named : d.name ≠ Definition.anonymous) {i : Nat} {line : Line}
    (here : (Line.ofText text.toList)[i]? = some line) (starts : d.firstLine = i + 1) :
    d.name.toList <:+: line := by
  rw [ofText_eq] at mem
  obtain ⟨j, -, found⟩ := List.mem_filterMap.mp mem
  have same : i = j := by
    have first := (definitionOn?_bounds found).1
    omega
  subst same
  rw [definitionOn?, here, Option.bind_some] at found
  obtain ⟨h, recognized, found⟩ := Option.bind_eq_some_iff.mp found
  obtain ⟨last, -, rfl⟩ := Option.map_eq_some_iff.mp found
  exact (Header.infix_of_recognize recognized).resolve_left named

namespace View

/-! ## Rows -/

section Rows

variable {o : Outline} {selection : Selection}

/-- The rows with markers: their numbers, and their markers. -/
def marks (v : View) : List (Nat × Marker) :=
  v.rows.filterMap fun r => r.marker.map (r.number, ·)

theorem mem_marks {v : View} {number : Nat} {m : Marker} :
    (number, m) ∈ v.marks ↔ ∃ r ∈ v.rows, r.number = number ∧ r.marker = some m := by
  simp only [marks, List.mem_filterMap, Option.map_eq_some_iff, Prod.mk.injEq]
  constructor
  · rintro ⟨r, mem, _, marker, same, rfl⟩
    exact ⟨r, mem, same, marker⟩
  · rintro ⟨r, mem, same, marker⟩
    exact ⟨r, mem, m, marker, same, rfl⟩

/-- A marker says which definition was found to start on the line. -/
theorem marker?_eq_some_iff {number : Nat} {line : Line} {m : Marker} :
    marker? o selection number line = some m ↔
      ∃ i d, o.definitions.findIdx? (·.firstLine == number) = some i ∧ o.get? i = some d ∧
        m = ⟨i, if d.isAnonymous then none else Text.byteRange? d.name.toList line,
          selection.isSelected d⟩ := by
  simp only [marker?, Option.bind_eq_bind, Option.bind_eq_some_iff, Option.some.injEq]
  constructor
  · rintro ⟨i, found, d, here, rfl⟩
    exact ⟨i, d, found, here, rfl⟩
  · rintro ⟨i, d, found, here, rfl⟩
    exact ⟨i, found, d, here, rfl⟩

theorem position_marker? (o : Outline) (selection : Selection) (number : Nat) (line : Line) :
    (marker? o selection number line).map Marker.position =
      o.definitions.findIdx? (·.firstLine == number) := by
  cases found : o.definitions.findIdx? (·.firstLine == number) with
  | none => simp [marker?, found]
  | some i =>
    obtain ⟨lt, -⟩ := List.findIdx?_eq_some_iff_getElem.mp found
    have here : o.get? i = some o.definitions[i] := List.getElem?_eq_getElem lt
    simp [marker?, found, here]

variable (o selection)

theorem text_rowsFrom (number : Nat) (painted : List (Line × List Segment)) :
    (rowsFrom o selection number painted).map Row.text = painted.map (Segment.joined ·.2) := by
  induction painted generalizing number with
  | nil => rfl
  | cons first rest ih =>
    rw [rowsFrom, List.map_cons, List.map_cons, ih]
    rfl

theorem number_rowsFrom (number : Nat) (painted : List (Line × List Segment)) :
    (rowsFrom o selection number painted).map Row.number = List.range' number painted.length := by
  induction painted generalizing number with
  | nil => rfl
  | cons first rest ih => rw [rowsFrom, List.map_cons, ih, List.length_cons, List.range'_succ]

theorem positions_rowsFrom (number : Nat) (painted : List (Line × List Segment)) :
    (rowsFrom o selection number painted).filterMap
        (fun r => r.marker.map fun m => (r.number, m.position)) =
      (List.range' number painted.length).filterMap fun k =>
        (o.definitions.findIdx? (·.firstLine == k)).map (k, ·) := by
  induction painted generalizing number with
  | nil => rfl
  | cons first rest ih =>
    have here : (marker? o selection number first.1).map (fun m => (number, m.position)) =
        (o.definitions.findIdx? (·.firstLine == number)).map (number, ·) := by
      rw [← position_marker? o selection number first.1, Option.map_map]
      rfl
    rw [rowsFrom, List.length_cons, List.range'_succ, List.filterMap_cons, List.filterMap_cons, ih]
    simp only [here]

variable {o selection}

/-- A row has the number, the line and the segments of its place. -/
theorem exists_of_mem_rowsFrom {number : Nat} {painted : List (Line × List Segment)} {r : Row}
    (mem : r ∈ rowsFrom o selection number painted) :
    ∃ i line segments, painted[i]? = some (line, segments) ∧
      r = ⟨number + i, segments, marker? o selection (number + i) line,
        selection.range?.any fun range => range.1 ≤ number + i && number + i ≤ range.2⟩ := by
  induction painted generalizing number with
  | nil => cases mem
  | cons first rest ih =>
    rw [rowsFrom] at mem
    rcases List.mem_cons.mp mem with rfl | mem
    · exact ⟨0, first.1, first.2, rfl, rfl⟩
    · obtain ⟨i, line, segments, here, rfl⟩ := ih mem
      refine ⟨i + 1, line, segments, here, ?_⟩
      rw [show number + (i + 1) = number + 1 + i by omega]

end Rows

/-- The lines that are shown are all lines, or all but the last one, on which nothing is. -/
theorem shownLines_cases (text : String) :
    if text = "" ∨ 1 < (Line.ofText text.toList).length ∧
        (Line.ofText text.toList).getLast? = some [] then
      shownLines text ++ [[]] = Line.ofText text.toList
    else shownLines text = Line.ofText text.toList := by
  unfold shownLines
  by_cases empty : text = ""
  · subst empty
    rfl
  · have something : text.isEmpty = false := by simpa using empty
    rw [something, if_neg Bool.false_ne_true]
    simp only [empty, false_or, Bool.and_eq_true, decide_eq_true_eq, beq_iff_eq, gt_iff_lt]
    split
    next ends => exact List.dropLast_append_getLast? _ ends.2
    next => rfl

theorem prefix_shownLines (text : String) : shownLines text <+: Line.ofText text.toList := by
  have cases_ := shownLines_cases text
  split at cases_
  · exact ⟨_, cases_⟩
  · rw [cases_]

/-! ## Agreement -/

/-- Whether a view of a text agrees with its outline and a selection from it. -/
structure Agrees (v : View) (text : String) (o : Outline) (selection : Selection) : Prop where
  /-- There is a row for each line, but a last line that is empty has none if there are others or if
  the text is empty. -/
  texts : if text = "" ∨ 1 < (Line.ofText text.toList).length ∧
        (Line.ofText text.toList).getLast? = some [] then
      v.rows.map Row.text ++ [[]] = Line.ofText text.toList
    else v.rows.map Row.text = Line.ofText text.toList
  /-- The rows are numbered from one. -/
  numbers : v.rows.map Row.number = List.range' 1 v.rows.length
  /-- The rows with markers are those on which definitions start. -/
  firstLines : v.marks.map Prod.fst = o.definitions.map Definition.firstLine
  /-- The markers are those of the definitions, in the same order. -/
  positions : v.marks.map (·.2.position) = List.range o.size
  /-- Selecting by a line succeeds where there is a marker, and selects its definition. -/
  selects : ∀ number s d, Selection.selectLine o number = .ok (s, d) ↔
    s = ⟨some d⟩ ∧ ∃ m, (number, m) ∈ v.marks ∧ o.get? m.position = some d
  /-- A marker names the bytes of its row that are the name of its definition. -/
  names : ∀ r ∈ v.rows, ∀ m, r.marker = some m → ∀ d, o.get? m.position = some d →
    d.name ≠ Definition.anonymous →
      ∃ range, m.nameRange = some range ∧ Text.slice? range r.text = some d.name.toList
  /-- The marker of the selected definition says so, and no other one. -/
  selected : ∀ mark ∈ v.marks, mark.2.selected = true ↔
    ∃ d, selection.selected? = some d ∧ o.get? mark.2.position = some d
  /-- At most one marker does. -/
  one : (v.marks.filter (·.2.selected)).length ≤ 1
  /-- The rows of the selection are those of the selected lines. -/
  inSelection : ∀ r ∈ v.rows, r.inSelection = true ↔
    ∃ first last, selection.range? = some (first, last) ∧ first ≤ r.number ∧ r.number ≤ last

section Agreement

variable {painter : Painter} {text : String} {selection : Selection} {options : Block.Options}
  {hint : Hint} {o : Outline}
  {painted : List (Line × List Segment)} {v : View}

/-- What the rows of a view are made of: its lines, and their segments. -/
theorem painted_lines (exact : painter.Exact) (text : String) (language : Hint)
    (path : Option String) (theme : String) (firsts : Grammar.FirstLines) :
    ∃ painted : List (Line × List Segment),
      painted.map Prod.fst = shownLines text ∧
      painted.map (Segment.joined ·.2) = shownLines text ∧
      ∀ o selection, (buildBy painter text o selection language path theme firsts).rows =
        rowsFrom o selection 1 painted := by
  have solid : ∀ line ∈ shownLines text, '\n' ∉ line := fun line mem =>
    Line.feed_not_mem_of_mem_ofText ((prefix_shownLines text).subset mem)
  have joined := Painting.joined_paintBy exact path language theme firsts solid
  have length := congrArg List.length joined
  rw [List.length_map] at length
  refine ⟨_, List.map_fst_zip (Nat.le_of_eq length.symm), ?_, fun o selection => rfl⟩
  have second := congrArg (List.map Segment.joined) (List.map_snd_zip (Nat.le_of_eq length))
  rw [List.map_map, joined] at second
  exact second

/-- The name range of a marker is that of the name, if there is one. -/
theorem name_of_marker {r : Row} {m : Marker} {d : Definition}
    (below : (Outline.ofText options hint text).definitions.Pairwise
      fun a b => a.firstLine < b.firstLine)
    (lines : painted.map Prod.fst = shownLines text)
    (joined : painted.map (Segment.joined ·.2) = shownLines text)
    (mem : r ∈ rowsFrom (Outline.ofText options hint text) selection 1 painted)
    (marker : r.marker = some m)
    (here : (Outline.ofText options hint text).get? m.position = some d)
    (named : d.name ≠ Definition.anonymous) :
    ∃ range, m.nameRange = some range ∧ Text.slice? range r.text = some d.name.toList := by
  obtain ⟨i, line, segments, place, rfl⟩ := exists_of_mem_rowsFrom mem
  obtain ⟨position, d', found, there, rfl⟩ := marker?_eq_some_iff.mp marker
  obtain rfl := Option.some.inj (here.symm.trans there)
  obtain ⟨d', there', starts⟩ := (Outline.findIdx?_firstLine below).mp found
  obtain rfl := Option.some.inj (here.symm.trans there')
  have shown : (shownLines text)[i]? = some line := by
    rw [← lines, List.getElem?_map, place]
    rfl
  have whole : Segment.joined segments = line := by
    rw [← joined, List.getElem?_map, place] at shown
    exact Option.some.inj shown
  have onLine : (Line.ofText text.toList)[i]? = some line := by
    obtain ⟨back, eq⟩ := prefix_shownLines text
    rw [← eq, List.getElem?_append_left (List.getElem?_eq_some_iff.mp shown).1]
    exact shown
  have stands := Detection.infix_name (Outline.mem_of_get? here) named onLine (by omega)
  obtain ⟨range, found⟩ := Text.exists_byteRange? stands
  refine ⟨range, ?_, ?_⟩
  · have has : d.isAnonymous = false := by
      rw [Definition.isAnonymous, beq_eq_false_iff_ne]
      exact named
    rw [has, if_neg Bool.false_ne_true, found]
  · rw [Row.text, whole]
    exact Text.slice?_of_byteRange? found

variable (rows : v.rows = rowsFrom o selection 1 painted)
  (below : o.definitions.Pairwise fun a b => a.firstLine < b.firstLine)
  (within : ∀ d ∈ o.definitions, 1 ≤ d.firstLine ∧ d.firstLine ≤ painted.length)
include rows below

/-- A marker belongs to the definition that starts on its row. -/
theorem definition_of_mark {number : Nat} {m : Marker} (mark : (number, m) ∈ v.marks) :
    ∃ d, o.get? m.position = some d ∧ d.firstLine = number ∧
      m.selected = selection.isSelected d := by
  obtain ⟨r, mem, rfl, marker⟩ := mem_marks.mp mark
  rw [rows] at mem
  obtain ⟨i, line, segments, -, rfl⟩ := exists_of_mem_rowsFrom mem
  obtain ⟨position, d, found, here, rfl⟩ := marker?_eq_some_iff.mp marker
  obtain ⟨d', there, starts⟩ := (Outline.findIdx?_firstLine below).mp found
  obtain rfl := Option.some.inj (here.symm.trans there)
  exact ⟨d, here, starts, rfl⟩

include within

/-- **There is one marker for each definition**, on the row on which it starts. -/
theorem map_marks : v.marks.map (fun mark => (mark.1, mark.2.position)) =
    o.definitions.zipIdx.map fun p => (p.1.firstLine, p.2) := by
  have looked := positions_rowsFrom o selection 1 painted
  rw [← rows] at looked
  have inside : ∀ d ∈ o.definitions, 1 ≤ d.firstLine ∧ d.firstLine < 1 + painted.length := by
    intro d mem
    have bounds := within d mem
    omega
  have all := Outline.filterMap_findIdx? below 1 painted.length inside 0
  simp only [Nat.zero_add] at all
  rw [← all, ← looked, marks, List.map_filterMap]
  refine List.filterMap_congr fun r _ => ?_
  rw [Option.map_map]
  rfl

theorem exists_mark {i : Nat} {d : Definition} (here : o.get? i = some d) :
    ∃ m, (d.firstLine, m) ∈ v.marks ∧ m.position = i := by
  have mem : (d.firstLine, i) ∈ v.marks.map fun mark => (mark.1, mark.2.position) := by
    rw [map_marks rows below within]
    exact List.mem_map.mpr ⟨(d, i), List.mk_mem_zipIdx_iff_getElem?.mpr here, rfl⟩
  obtain ⟨⟨number, m⟩, mark, eq⟩ := List.mem_map.mp mem
  obtain ⟨rfl, rfl⟩ := Prod.mk.inj eq
  exact ⟨m, mark, rfl⟩

theorem positions_marks : v.marks.map (·.2.position) = List.range o.size := by
  have second := congrArg (List.map Prod.snd) (map_marks rows below within)
  rw [List.map_map, List.map_map] at second
  rw [Outline.size, List.range_eq_range', ← List.zipIdx_map_snd 0 o.definitions]
  exact second

theorem firstLines_marks : v.marks.map Prod.fst = o.definitions.map Definition.firstLine := by
  have first := congrArg (List.map Prod.fst) (map_marks rows below within)
  rw [List.map_map, List.map_map] at first
  rw [← List.zipIdx_map_fst 0 o.definitions, List.map_map]
  exact first

/-- Selecting by a line and looking for a marker on the row come to the same. -/
theorem selectLine_eq_ok_iff {number : Nat} {s : Selection} {d : Definition} :
    Selection.selectLine o number = .ok (s, d) ↔
      s = ⟨some d⟩ ∧ ∃ m, (number, m) ∈ v.marks ∧ o.get? m.position = some d := by
  have starts : o.startingOn? number = some d ↔
      ∃ m, (number, m) ∈ v.marks ∧ o.get? m.position = some d := by
    rw [Outline.startingOn?_eq_some_iff below]
    constructor
    · rintro ⟨i, here, rfl⟩
      obtain ⟨m, mark, rfl⟩ := exists_mark rows below within here
      exact ⟨m, mark, here⟩
    · rintro ⟨m, mark, here⟩
      obtain ⟨d', there, starts, -⟩ := definition_of_mark rows below mark
      obtain rfl := Option.some.inj (here.symm.trans there)
      exact ⟨m.position, here, starts⟩
  rw [← starts, Selection.selectLine]
  cases found : o.startingOn? number with
  | none => simp
  | some d' =>
    simp only [Except.ok.injEq, Prod.mk.injEq, Option.some.injEq]
    constructor
    · rintro ⟨rfl, rfl⟩
      exact ⟨rfl, rfl⟩
    · rintro ⟨rfl, rfl⟩
      exact ⟨rfl, rfl⟩

variable (member : ∀ d ∈ selection.selected?, d ∈ o.definitions)
include member

omit within in
/-- The selected definition is the one of the marker that says so. -/
theorem selected_iff {mark : Nat × Marker} (mem : mark ∈ v.marks) :
    mark.2.selected = true ↔
      ∃ d, selection.selected? = some d ∧ o.get? mark.2.position = some d := by
  obtain ⟨d, here, -, selected⟩ := definition_of_mark rows below mem
  rw [selected, Selection.isSelected, Option.any_eq_true]
  constructor
  · rintro ⟨d', chosen, same⟩
    obtain ⟨j, there⟩ := List.getElem?_of_mem (member d' chosen)
    have key := beq_iff_eq.mp same
    have position := Outline.eq_of_firstLine below here there
      (congrArg Definition.Key.firstLine key).symm
    rw [← position] at there
    obtain rfl := Option.some.inj (here.symm.trans there)
    exact ⟨d, chosen, here⟩
  · rintro ⟨d', chosen, there⟩
    obtain rfl := Option.some.inj (here.symm.trans there)
    exact ⟨d, chosen, beq_self_eq_true _⟩

theorem length_selected_le_one : (v.marks.filter (·.2.selected)).length ≤ 1 := by
  -- The positions of all selected markers are one and the same.
  have nodup : ((v.marks.filter (·.2.selected)).map (·.2.position)).Nodup := by
    refine List.Nodup.sublist (List.filter_sublist.map _) ?_
    rw [positions_marks rows below within]
    exact List.nodup_range
  have chosen : ∀ mark ∈ v.marks.filter (·.2.selected),
      ∃ d, selection.selected? = some d ∧ o.get? mark.2.position = some d := by
    intro mark mem
    obtain ⟨mem, selected⟩ := List.mem_filter.mp mem
    exact (selected_iff rows below member mem).mp selected
  cases marked : v.marks.filter (·.2.selected) with
  | nil => exact Nat.zero_le 1
  | cons mark rest =>
    rw [marked] at nodup chosen
    obtain ⟨d, selected, here⟩ := chosen mark List.mem_cons_self
    have same : (mark :: rest).map (·.2.position) ⊆ [mark.2.position] := by
      intro position among
      obtain ⟨other, mem, rfl⟩ := List.mem_map.mp among
      obtain ⟨d', selected', there⟩ := chosen other mem
      obtain rfl := Option.some.inj (selected.symm.trans selected')
      exact List.mem_singleton.mpr (Outline.eq_of_firstLine below there here rfl)
    have le := (List.subperm_of_subset nodup same).length_le
    rw [List.length_map] at le
    exact le

end Agreement

/-- **The view of a text agrees with its outline.** -/
theorem view_agrees {painter : Painter} (exact : painter.Exact) (options : Block.Options)
    (hint language : Hint) (path : Option String) (theme text : String)
    (firsts : Grammar.FirstLines) {selection : Selection}
    (member : ∀ d ∈ selection.selected?, d ∈ (Outline.ofText options hint text).definitions) :
    (buildBy painter text (Outline.ofText options hint text) selection language path theme
      firsts).Agrees text (Outline.ofText options hint text) selection := by
  obtain ⟨painted, lines, joined, builds⟩ := painted_lines exact text language path theme firsts
  have rows := builds (Outline.ofText options hint text) selection
  have below := (Detection.detection_is_exact options hint text).2.1
  have length : painted.length = (shownLines text).length := by rw [← lines, List.length_map]
  have within : ∀ d ∈ (Outline.ofText options hint text).definitions,
      1 ≤ d.firstLine ∧ d.firstLine ≤ painted.length := by
    intro d mem
    rw [length]
    exact firstLine_of_mem_ofText mem
  generalize buildBy painter text (Outline.ofText options hint text) selection language path theme
    firsts = v at rows ⊢
  refine ⟨?_, ?_, firstLines_marks rows below within, positions_marks rows below within,
    fun number s d => selectLine_eq_ok_iff rows below within, ?_,
    fun mark mem => selected_iff rows below member mem,
    length_selected_le_one rows below within member, ?_⟩
  · rw [rows, text_rowsFrom, joined]
    exact shownLines_cases text
  · rw [rows, number_rowsFrom, length_rowsFrom]
  · intro r mem m marker d here named
    rw [rows] at mem
    exact name_of_marker below lines joined mem marker here named
  · intro r mem
    rw [rows] at mem
    obtain ⟨i, line, segments, -, rfl⟩ := exists_of_mem_rowsFrom mem
    rw [Option.any_eq_true]
    constructor
    · rintro ⟨⟨first, last⟩, range, inside⟩
      rw [Bool.and_eq_true, decide_eq_true_iff, decide_eq_true_iff] at inside
      exact ⟨first, last, range, inside⟩
    · rintro ⟨first, last, range, inside⟩
      refine ⟨(first, last), range, ?_⟩
      rw [Bool.and_eq_true, decide_eq_true_iff, decide_eq_true_iff]
      exact inside

/-- The names need not be ASCII.  A file of plain text is painted in the colours of the theme, and
each line is one piece. -/
theorem view_agrees_beyond_ascii :
    let text := "class Café:\n  def naïveté(self):\n    pass\n"
    let o := Outline.ofText {} none text
    let selection : Selection :=
      ⟨some ⟨.function, "naïveté", 2, 3, "  def naïveté(self):\n    pass"⟩⟩
    let painter := Painter.uniform
      { foreground := ⟨0xc0, 0xc5, 0xce, 0xff⟩, background := ⟨0x2b, 0x30, 0x3b, 0xff⟩ }
    let v := buildBy painter text o selection none (some "notes.txt") "base16-ocean.dark" .nowhere
    v.marks = [(1, ⟨0, some (6, 11), false⟩), (2, ⟨1, some (6, 15), true⟩)] ∧
      painter.Exact ∧ (∀ d ∈ selection.selected?, d ∈ o.definitions) ∧
      v.Agrees text o selection := by
  intro text o selection painter v
  have definitions : o.definitions =
      [⟨.classLike, "Café", 1, 3, "class Café:\n  def naïveté(self):\n    pass"⟩,
        ⟨.function, "naïveté", 2, 3, "  def naïveté(self):\n    pass"⟩] := by
    show (Outline.ofText _ _ text).definitions = _
    rw [Detection.definitions_ofText]
    decide +kernel
  have exact := Painter.exact_uniform
    { foreground := ⟨0xc0, 0xc5, 0xce, 0xff⟩, background := ⟨0x2b, 0x30, 0x3b, 0xff⟩ }
  have member : ∀ d ∈ selection.selected?, d ∈ o.definitions := by
    rintro d ⟨⟩
    rw [definitions]
    decide +kernel
  refine ⟨?_, exact, member, view_agrees exact {} _ _ _ _ text _ member⟩
  have outline : o = ⟨[⟨.classLike, "Café", 1, 3, "class Café:\n  def naïveté(self):\n    pass"⟩,
        ⟨.function, "naïveté", 2, 3, "  def naïveté(self):\n    pass"⟩]⟩ :=
    congrArg Outline.mk definitions
  show (buildBy painter text o selection _ _ _ _).marks = _
  rw [outline]
  decide +kernel

end View
end CodeGloss
