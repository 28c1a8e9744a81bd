import CodeGloss.Proofs.Text.Search
import CodeGloss.Screen.CodePane

/-!
# Emphasis on a row

A row is shown segment by segment, and the bytes in a range of it are emphasised: they are those of
a name.  The segments know nothing of the range.  It may begin and end in different ones, and a
segment may lie before it, behind it, inside of it or around it.

So each segment is cut into up to three parts, at bytes that are counted from its own start.  The cut
is written here once more with slices that may fail (`parts?`): where one would reach out of its
segment, or begin or end inside a character, and where a difference would drop below zero.

None of them does, if the range is that of a piece of the row (`emphasis_splits_row`).  What carries
the proof is how much of the row is still ahead: some text before the range, and some of the range
(`Ahead`).  A segment takes a part of each from the front (`Ahead.cut`), and what it takes are its
parts.
-/

namespace CodeGloss
namespace CodePane

open Block.Positional (minus? minus?_of_le)
open Text (byteLength byteLength_append byteLength_nil slice? slice?_append append_of_slice?)

/-! ## Parts of segments -/

/-- A part of a segment. -/
structure Part where
  /-- The text of the part. -/
  text : List Char
  /-- Whether it is emphasised. -/
  strong : Bool
deriving DecidableEq, Repr

namespace Part

/-- A part as it is shown, in the style of its segment. -/
def piece (style : Style) (p : Part) : Piece where
  style := if p.strong then emphasised style else style
  text := p.text

/-- The parts on which there is something. -/
def solid (parts : List Part) : List Part :=
  parts.filter fun p => !p.text.isEmpty

/-- The text of some parts. -/
def joined (parts : List Part) : List Char :=
  parts.flatMap text

/-- The text of those parts that are emphasised. -/
def strongText (parts : List Part) : List Char :=
  joined (parts.filter strong)

/-- The three parts of a segment that reaches from before a range to behind it. -/
def three (before name after : List Char) : List Part :=
  [⟨before, false⟩, ⟨name, true⟩, ⟨after, false⟩]

theorem ne_nil_of_mem_solid {parts : List Part} {p : Part} (mem : p ∈ solid parts) :
    p.text ≠ [] := by
  have something := (List.mem_filter.mp mem).2
  intro nothing
  rw [nothing] at something
  cases something

theorem joined_solid (parts : List Part) : joined (solid parts) = joined parts := by
  induction parts with
  | nil => rfl
  | cons p rest ih =>
    have whole : joined (p :: rest) = p.text ++ joined (solid rest) := by
      rw [ih]
      rfl
    rw [whole, solid, List.filter_cons]
    by_cases nothing : p.text = []
    · rw [nothing]
      rfl
    · have something : (!p.text.isEmpty) = true := by simpa using nothing
      rw [if_pos something]
      rfl

theorem strongText_solid (parts : List Part) : strongText (solid parts) = strongText parts := by
  rw [strongText, strongText, ← joined_solid (parts.filter strong), solid, solid,
    List.filter_filter, List.filter_filter]
  simp only [Bool.and_comm]

end Part

/-- Whether a segment that begins at the byte `offset` of its line reaches into a range. -/
def Meets (range : Nat × Nat) (offset : Nat) (s : Segment) : Prop :=
  range.1 < offset + byteLength s.text ∧ offset < range.2

instance (range : Nat × Nat) (offset : Nat) (s : Segment) : Decidable (Meets range offset s) :=
  inferInstanceAs (Decidable (_ ∧ _))

/-- The parts of a segment that begins at the byte `offset` of its line, unless a slice fails. -/
def parts? (range : Nat × Nat) (offset : Nat) (s : Segment) : Option (List Part) :=
  if Meets range offset s then do
    let first := range.1 - offset
    let last ← minus? (min range.2 (offset + byteLength s.text)) offset
    let before ← slice? (0, first) s.text
    let name ← slice? (first, last) s.text
    let after ← slice? (last, byteLength s.text) s.text
    some (Part.solid (Part.three before name after))
  else some [⟨s.text, false⟩]

/-- The parts of some segments, the first of which begins at the byte `offset` of its line, unless a
slice fails. -/
def partsFrom? (range : Nat × Nat) : Nat → List Segment → Option (List (List Part))
  | _, [] => some []
  | offset, s :: rest => do
    let here ← parts? range offset s
    let others ← partsFrom? range (offset + byteLength s.text) rest
    some (here :: others)

/-- The parts of some segments as they are shown. -/
def shownParts (inSelection : Bool) (segments : List Segment) (parts : List (List Part)) :
    List Piece :=
  (List.zipWith (fun s ps => ps.map (Part.piece (styleOf s.look inSelection))) segments
    parts).flatten

/-- Whether a piece of a row is bold and underlined, as what is emphasised is. -/
def standsOut (p : Piece) : Bool :=
  p.style.bold && p.style.underline

/-- Together the shown parts are the text of the parts. -/
theorem text_shownParts (inSelection : Bool) {segments : List Segment} {parts : List (List Part)}
    (length : parts.length = segments.length) :
    (shownParts inSelection segments parts).flatMap Piece.text = parts.flatMap Part.joined := by
  induction segments generalizing parts with
  | nil =>
    rw [List.length_eq_zero_iff.mp length]
    rfl
  | cons s rest ih =>
    cases parts with
    | nil => cases length
    | cons ps others =>
      have here : (ps.map (Part.piece (styleOf s.look inSelection))).flatMap Piece.text =
          Part.joined ps := by
        rw [List.flatMap_map]
        rfl
      have later := ih (Nat.succ.inj length)
      show (ps.map _ ++ shownParts inSelection rest others).flatMap Piece.text = _
      rw [List.flatMap_append, here, later, List.flatMap_cons]

/-- If no segment stands out by itself, the shown parts that do are the emphasised ones. -/
theorem standsOut_shownParts (inSelection : Bool) {segments : List Segment}
    {parts : List (List Part)} (length : parts.length = segments.length)
    (plain : ∀ s ∈ segments, ¬(s.look.bold = true ∧ s.look.underline = true)) :
    ((shownParts inSelection segments parts).filter standsOut).flatMap Piece.text =
      parts.flatMap Part.strongText := by
  induction segments generalizing parts with
  | nil =>
    rw [List.length_eq_zero_iff.mp length]
    rfl
  | cons s rest ih =>
    cases parts with
    | nil => cases length
    | cons ps others =>
      have stands : ∀ p : Part, standsOut (p.piece (styleOf s.look inSelection)) = p.strong := by
        intro p
        have look : (s.look.bold && s.look.underline) = false := by
          rw [Bool.eq_false_iff, ne_eq, Bool.and_eq_true]
          exact plain s List.mem_cons_self
        cases strong : p.strong with
        | true => simp [standsOut, Part.piece, strong, emphasised]
        | false => simpa [standsOut, Part.piece, strong, styleOf] using look
      have here : ((ps.map (Part.piece (styleOf s.look inSelection))).filter standsOut).flatMap
          Piece.text = Part.strongText ps := by
        have same : standsOut ∘ Part.piece (styleOf s.look inSelection) = Part.strong :=
          funext stands
        rw [List.filter_map, same, List.flatMap_map]
        rfl
      have later := ih (Nat.succ.inj length) fun t mem => plain t (List.mem_cons_of_mem s mem)
      show ((ps.map _ ++ shownParts inSelection rest others).filter standsOut).flatMap
        Piece.text = _
      rw [List.filter_append, List.flatMap_append, here, later, List.flatMap_cons]

/-! ## One segment -/

/-- A text is cut where a part of it ends. -/
theorem cutBytes_append (front back : List Char) :
    cutBytes (byteLength front) (front ++ back) = (front, back) := by
  induction front with
  | nil =>
    cases back with
    | nil => rfl
    | cons c back =>
      have size := c.utf8Size_pos
      rw [List.nil_append, cutBytes, byteLength_nil, if_neg (by omega)]
  | cons c front ih =>
    rw [List.cons_append, cutBytes, byteLength, if_pos (Nat.le_add_right _ _),
      Nat.add_sub_cancel_left, ih]

/-- How a segment lies to a range: what of it stands before, inside and behind the range. -/
structure Divides (range : Nat × Nat) (offset : Nat) (s : Segment)
    (before name after : List Char) : Prop where
  text : s.text = before ++ name ++ after
  starts : Meets range offset s → range.1 - offset = byteLength before
  ends : Meets range offset s → min range.2 (offset + byteLength s.text) - offset =
    byteLength before + byteLength name
  apart : ¬Meets range offset s → name = []

section Divides

variable {range : Nat × Nat} {offset : Nat} {s : Segment} {before name after : List Char}
  (h : Divides range offset s before name after)
include h

/-- No slice of a segment fails that reaches into the range. -/
theorem Divides.parts?_of_meets (meets : Meets range offset s) :
    parts? range offset s = some (Part.solid (Part.three before name after)) := by
  have first : slice? (0, byteLength before) s.text = some before := by
    have cut := slice?_append [] before (name ++ after)
    rw [byteLength_nil, Nat.zero_add, List.nil_append, ← List.append_assoc, ← h.text] at cut
    exact cut
  have second : slice? (byteLength before, byteLength before + byteLength name) s.text =
      some name := by
    rw [h.text, slice?_append]
  have third : slice? (byteLength before + byteLength name, byteLength s.text) s.text =
      some after := by
    have cut := slice?_append (before ++ name) after []
    rw [List.append_nil, ← byteLength_append, ← h.text, byteLength_append] at cut
    exact cut
  have ordered : offset ≤ min range.2 (offset + byteLength s.text) := by
    have reaches := meets.2
    omega
  simp only [parts?, if_pos meets, minus?_of_le ordered, h.starts meets, h.ends meets, first,
    second, third, Option.bind_eq_bind, Option.bind_some]

/-- The segment is drawn in these parts, -/
theorem Divides.cutSegment_of_meets (meets : Meets range offset s) (inSelection : Bool) :
    cutSegment s offset (some range) inSelection =
      (Part.solid (Part.three before name after)).map
        (Part.piece (styleOf s.look inSelection)) := by
  have first : cutBytes (range.1 - offset) s.text = (before, name ++ after) := by
    rw [h.starts meets, h.text, List.append_assoc, cutBytes_append]
  have second : cutBytes (min range.2 (offset + byteLength s.text) - offset - byteLength before)
      (name ++ after) = (name, after) := by
    rw [h.ends meets, Nat.add_sub_cancel_left, cutBytes_append]
  have both : (decide (range.1 < offset + byteLength s.text) && decide (offset < range.2)) =
      true := by
    rw [Bool.and_eq_true, decide_eq_true_iff, decide_eq_true_iff]
    exact meets
  simp only [cutSegment, both, if_true, first, second]
  exact List.filter_map (l := Part.three before name after)
    (f := Part.piece (styleOf s.look inSelection))

/-- and as it is if it does not reach into the range. -/
theorem Divides.exists_parts (inSelection : Bool) :
    ∃ ps, parts? range offset s = some ps ∧
      cutSegment s offset (some range) inSelection =
        ps.map (Part.piece (styleOf s.look inSelection)) ∧
      Part.joined ps = s.text ∧ Part.strongText ps = name ∧
      (Meets range offset s → ∀ p ∈ ps, p.text ≠ []) := by
  by_cases meets : Meets range offset s
  · refine ⟨_, h.parts?_of_meets meets, h.cutSegment_of_meets meets inSelection, ?_, ?_,
      fun _ p mem => Part.ne_nil_of_mem_solid mem⟩
    · rw [Part.joined_solid, h.text]
      simp only [Part.joined, Part.three, List.flatMap_cons, List.flatMap_nil, List.append_nil,
        List.append_assoc]
    · rw [Part.strongText_solid]
      exact List.append_nil name
  · have whole : parts? range offset s = some [⟨s.text, false⟩] := if_neg meets
    have drawn : cutSegment s offset (some range) inSelection =
        [{ style := styleOf s.look inSelection, text := s.text }] := by
      have apart : (decide (range.1 < offset + byteLength s.text) && decide (offset < range.2)) =
          false := by
        rw [Bool.eq_false_iff, ne_eq, Bool.and_eq_true, decide_eq_true_iff, decide_eq_true_iff]
        exact meets
      simp only [cutSegment, apart, if_neg Bool.false_ne_true]
    refine ⟨_, whole, drawn, List.append_nil s.text, ?_, fun reaches => absurd reaches meets⟩
    rw [h.apart meets]
    rfl

end Divides

/-! ## Segment by segment -/

/-- What of a row is ahead from a byte on: some text before a range, and some text of the range.
Once the range has begun there is nothing before it, and once it has ended there is nothing of it. -/
structure Ahead (range : Nat × Nat) (offset : Nat) (before name : List Char) : Prop where
  starts : range.1 - offset = byteLength before
  ends : range.2 - offset = byteLength before + byteLength name

/-- **A segment takes what it can of the text before the range, and then of the range.** -/
theorem Ahead.cut {range : Nat × Nat} {offset : Nat} {before name after rest : List Char}
    (h : Ahead range offset before name) {s : Segment}
    (whole : s.text ++ rest = before ++ name ++ after) :
    ∃ taken taken' taken'' before' name' after',
      Divides range offset s taken taken' taken'' ∧ name = taken' ++ name' ∧
        rest = before' ++ name' ++ after' ∧
        Ahead range (offset + byteLength s.text) before' name' := by
  obtain ⟨starts, ends⟩ := h
  rw [List.append_assoc] at whole
  rcases List.append_eq_append_iff.mp whole with ⟨before', rfl, rfl⟩ | ⟨back, text, eq⟩
  · -- The segment ends before the range.
    rw [byteLength_append] at starts ends
    refine ⟨s.text, [], [], before', name, after, ⟨by simp, ?_, ?_, fun _ => rfl⟩, rfl, by simp,
      by omega, by omega⟩
    · rintro ⟨reaches, -⟩
      omega
    · rintro ⟨reaches, -⟩
      rw [byteLength_nil]
      omega
  · rcases List.append_eq_append_iff.mp eq with ⟨taken'', rfl, rfl⟩ | ⟨name', rfl, rfl⟩
    · -- The segment holds what is left of the range.
      have length : byteLength s.text = byteLength before + byteLength name +
          byteLength taken'' := by
        rw [text, byteLength_append, byteLength_append, Nat.add_assoc]
      refine ⟨before, name, taken'', [], [], rest, ⟨by simp [text], fun _ => starts, ?_, ?_⟩,
        by simp, by simp, ?_, ?_⟩
      · rintro ⟨-, -⟩
        omega
      · intro apart
        apply Text.eq_nil_of_byteLength
        unfold Meets at apart
        omega
      · rw [byteLength_nil]
        omega
      · rw [byteLength_nil]
        omega
    · -- The segment ends inside the range.
      have length : byteLength s.text = byteLength before + byteLength back := by
        rw [text, byteLength_append]
      rw [byteLength_append] at ends
      refine ⟨before, back, [], [], name', after, ⟨by simp [text], fun _ => starts, ?_, ?_⟩, rfl,
        by simp, ?_, ?_⟩
      · rintro ⟨-, -⟩
        omega
      · intro apart
        apply Text.eq_nil_of_byteLength
        unfold Meets at apart
        omega
      · rw [byteLength_nil]
        omega
      · rw [byteLength_nil]
        omega

/-- What comes of the segments of a row: they are cut without a failure, they are drawn in these
parts, the parts make up the row, the emphasised ones make up the name, and there is something on
each part of a segment that reaches into the range. -/
structure Splits (range : Nat × Nat) (name : List Char) (inSelection : Bool) (offset : Nat)
    (segments : List Segment) (parts : List (List Part)) : Prop where
  sliced : partsFrom? range offset segments = some parts
  length : parts.length = segments.length
  drawn : cutSegments (some range) inSelection offset segments =
    shownParts inSelection segments parts
  joined : parts.flatMap Part.joined = Segment.joined segments
  strong : parts.flatMap Part.strongText = name
  solid : ∀ i s ps, segments[i]? = some s → parts[i]? = some ps →
    Meets range (offset + byteLength (Segment.joined (segments.take i))) s →
    ∀ p ∈ ps, p.text ≠ []

theorem exists_splits {range : Nat × Nat} {offset : Nat} {before name after : List Char}
    {segments : List Segment} (h : Ahead range offset before name)
    (whole : Segment.joined segments = before ++ name ++ after) (inSelection : Bool) :
    ∃ parts, Splits range name inSelection offset segments parts := by
  induction segments generalizing offset before name after with
  | nil =>
    have nothing : name = [] := by
      have all : before ++ name ++ after = [] := whole.symm
      rw [List.append_eq_nil_iff, List.append_eq_nil_iff] at all
      exact all.1.2
    exact ⟨[], rfl, rfl, rfl, rfl, nothing.symm, fun i s ps here => by cases here⟩
  | cons s rest ih =>
    have first : s.text ++ Segment.joined rest = before ++ name ++ after := whole
    obtain ⟨taken, taken', taken'', before', name', after', divides, rfl, whole', ahead⟩ :=
      h.cut first
    obtain ⟨ps, sliced, drawn, joined, strong, solid⟩ := divides.exists_parts inSelection
    obtain ⟨parts, others⟩ := ih ahead whole'
    refine ⟨ps :: parts, ?_, congrArg Nat.succ others.length, ?_, ?_, ?_, ?_⟩
    · rw [partsFrom?, sliced, Option.bind_eq_bind, Option.bind_some, others.sliced]
      rfl
    · rw [cutSegments, drawn, others.drawn]
      rfl
    · rw [List.flatMap_cons, joined, others.joined]
      rfl
    · rw [List.flatMap_cons, strong, others.strong]
    · intro i t qs here there meets
      cases i with
      | zero =>
        cases here
        cases there
        exact solid meets
      | succ i =>
        refine others.solid i t qs here there ?_
        have sum : offset + byteLength s.text + byteLength (Segment.joined (rest.take i)) =
            offset + byteLength (Segment.joined ((s :: rest).take (i + 1))) := by
          rw [Nat.add_assoc, ← byteLength_append]
          rfl
        rw [sum]
        exact meets

/-! ## Rows -/

/-- **Emphasis splits a row without loss.**  Let a row be made up of any segments, and let a name
stand on it in the range of its marker.  Then no slice of a segment fails, and the pieces that show
the row after its gutter are the parts of the segments in their styles.  Together they are the row.
Those that are emphasised are the name, and can be told by their looks unless some segment is bold
and underlined by itself.  No piece of a segment that reaches into the range is empty. -/
theorem emphasis_splits_row (r : Row) {range : Nat × Nat} {name : List Char}
    (marked : r.marker.bind Marker.nameRange = some range)
    (stands : slice? range r.text = some name) :
    ∃ parts, partsFrom? range 0 r.segments = some parts ∧
      body r = shownParts r.inSelection r.segments parts ∧
      (body r).flatMap Piece.text = r.text ∧ parts.flatMap Part.strongText = name ∧
      ((∀ s ∈ r.segments, ¬(s.look.bold = true ∧ s.look.underline = true)) →
        ((body r).filter standsOut).flatMap Piece.text = name) ∧
      ∀ i s ps, r.segments[i]? = some s → parts[i]? = some ps →
        Meets range (byteLength (Segment.joined (r.segments.take i))) s →
        ∀ p ∈ ps, p.text ≠ [] := by
  obtain ⟨before, after, whole, starts, ends⟩ := append_of_slice? stands
  have ahead : Ahead range 0 before name := ⟨starts.symm, ends.symm⟩
  obtain ⟨parts, splits⟩ := exists_splits ahead whole r.inSelection
  have shown : body r = shownParts r.inSelection r.segments parts := by
    rw [body, marked]
    exact splits.drawn
  refine ⟨parts, splits.sliced, shown, ?_, splits.strong, ?_, ?_⟩
  · rw [shown, text_shownParts _ splits.length, splits.joined]
    rfl
  · intro plain
    rw [shown, standsOut_shownParts _ splits.length plain, splits.strong]
  · intro i s ps here there meets
    refine splits.solid i s ps here there ?_
    rwa [Nat.zero_add]

/-- Here a name of five letters and six bytes begins in the first of four segments and ends with the
third one, and there is nothing on the second one. -/
theorem emphasis_splits_row_beyond_ascii :
    let r : Row :=
      { number := 1
        segments := [⟨"def na".toList, {}⟩, ⟨[], {}⟩, ⟨"ïve".toList, {}⟩, ⟨"():".toList, {}⟩]
        marker := some ⟨0, some (4, 10), false⟩
        inSelection := false }
    r.marker.bind Marker.nameRange = some (4, 10) ∧
      slice? (4, 10) r.text = some "naïve".toList ∧
      (body r).map (fun p => (String.ofList p.text, standsOut p)) =
        [("def ", false), ("na", true), ("ïve", true), ("():", false)] ∧
      ∃ parts, partsFrom? (4, 10) 0 r.segments = some parts ∧
        body r = shownParts r.inSelection r.segments parts ∧
        (body r).flatMap Piece.text = r.text ∧ parts.flatMap Part.strongText = "naïve".toList ∧
        ((∀ s ∈ r.segments, ¬(s.look.bold = true ∧ s.look.underline = true)) →
          ((body r).filter standsOut).flatMap Piece.text = "naïve".toList) ∧
        ∀ i s ps, r.segments[i]? = some s → parts[i]? = some ps →
          Meets (4, 10) (byteLength (Segment.joined (r.segments.take i))) s →
          ∀ p ∈ ps, p.text ≠ [] := by
  intro r
  have stands : slice? (4, 10) r.text = some "naïve".toList := by decide
  exact ⟨rfl, stands, by decide, emphasis_splits_row r rfl stands⟩

end CodePane
end CodeGloss
