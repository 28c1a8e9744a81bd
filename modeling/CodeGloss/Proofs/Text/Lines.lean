import CodeGloss.Text.Lines
import Mathlib.Data.List.DropRight

/-!
# Lines and their characters

The lines of a text hold nothing but characters of the text, so that the lines of a blank text are
blank, and of the characters of the text they lack terminators only
(`Line.filterMap_flatten_ofText`).  Texts that are put together with a line feed between them have
the lines of the one and then those of the other one (`Line.ofText_append`).  If there is none
between them, the last line of the one and the first line of the other one make up one line
(`Line.ofText_append_mark`).  A list of lines that is cut at a position begins with the line at that
position.
-/

namespace CodeGloss
namespace Text

variable {p : Char → Bool} {s : List Char}

theorem splitOn_cons (p : Char → Bool) (c : Char) (s : List Char) :
    splitOn p (c :: s) =
      if p c then [] :: splitOn p s
      else (c :: (splitOn p s).headD []) :: (splitOn p s).tail := by
  show (if p c then _ else _) = _
  split
  · rfl
  · cases pieces : splitOn p s <;> simp only [splitOn] at pieces <;> rw [pieces] <;> rfl

/-- There is always a piece. -/
theorem splitOn_ne_nil (p : Char → Bool) (s : List Char) : splitOn p s ≠ [] := by
  cases s with
  | nil => simp
  | cons c s =>
    rw [splitOn_cons]
    split <;> simp

/-- There is at most one piece for each character, and one more. -/
theorem length_splitOn_le (p : Char → Bool) (s : List Char) :
    (splitOn p s).length ≤ s.length + 1 := by
  induction s with
  | nil => exact Nat.le_refl 1
  | cons c s ih =>
    have pos := List.length_pos_iff.mpr (splitOn_ne_nil p s)
    rw [splitOn_cons]
    split
    · exact Nat.succ_le_succ ih
    · rw [List.length_cons, List.length_tail, List.length_cons]
      omega

/-- The pieces are made of the characters of the text. -/
theorem mem_of_mem_splitOn {piece : List Char} (mem : piece ∈ splitOn p s) :
    ∀ c ∈ piece, c ∈ s := by
  induction s generalizing piece with
  | nil =>
    rw [splitOn_nil, List.mem_singleton] at mem
    subst mem
    exact fun c inside => absurd inside List.not_mem_nil
  | cons d s ih =>
    intro c inside
    rw [splitOn_cons] at mem
    split at mem
    · rcases List.mem_cons.mp mem with rfl | later
      · exact absurd inside List.not_mem_nil
      · exact List.mem_cons_of_mem _ (ih later c inside)
    · cases pieces : splitOn p s with
      | nil => exact absurd pieces (splitOn_ne_nil p s)
      | cons first others =>
        rw [pieces] at mem ih
        rcases List.mem_cons.mp mem with rfl | later
        · rcases List.mem_cons.mp inside with rfl | inside
          · exact List.mem_cons_self
          · exact List.mem_cons_of_mem _ (ih List.mem_cons_self c inside)
        · exact List.mem_cons_of_mem _ (ih (List.mem_cons_of_mem _ later) c inside)

/-- No piece holds a separator. -/
theorem not_of_mem_splitOn {piece : List Char} (mem : piece ∈ splitOn p s) :
    ∀ c ∈ piece, p c = false := by
  induction s generalizing piece with
  | nil =>
    rw [splitOn_nil, List.mem_singleton] at mem
    subst mem
    exact fun c inside => absurd inside List.not_mem_nil
  | cons d s ih =>
    intro c inside
    rw [splitOn_cons] at mem
    obtain ⟨first, others, pieces⟩ := List.exists_cons_of_ne_nil (splitOn_ne_nil p s)
    split at mem
    · rcases List.mem_cons.mp mem with rfl | later
      · exact absurd inside List.not_mem_nil
      · exact ih later c inside
    next apart =>
      rw [pieces] at mem ih
      rcases List.mem_cons.mp mem with rfl | later
      · rcases List.mem_cons.mp inside with rfl | inside
        · exact Bool.eq_false_iff.mpr apart
        · exact ih List.mem_cons_self c inside
      · exact ih (List.mem_cons_of_mem _ later) c inside

/-- Texts with a separator between them have the pieces of both. -/
theorem splitOn_append {c : Char} (separates : p c = true) (s t : List Char) :
    splitOn p (s ++ c :: t) = splitOn p s ++ splitOn p t := by
  induction s with
  | nil => rw [List.nil_append, splitOn_cons, if_pos separates, splitOn_nil, List.singleton_append]
  | cons d s ih =>
    rw [List.cons_append, splitOn_cons, splitOn_cons, ih]
    split
    · rw [List.cons_append]
    · obtain ⟨first, others, pieces⟩ := List.exists_cons_of_ne_nil (splitOn_ne_nil p s)
      rw [pieces]
      rfl

/-- Without a separator the text before goes to the first piece. -/
theorem splitOn_append_of_not (none : ∀ c ∈ s, p c = false) (t : List Char) :
    splitOn p (s ++ t) = (s ++ (splitOn p t).headD []) :: (splitOn p t).tail := by
  induction s with
  | nil =>
    obtain ⟨first, others, pieces⟩ := List.exists_cons_of_ne_nil (splitOn_ne_nil p t)
    rw [List.nil_append, pieces]
    rfl
  | cons c s ih =>
    rw [List.forall_mem_cons] at none
    rw [List.cons_append, splitOn_cons, if_neg (Bool.eq_false_iff.mp none.1), ih none.2]
    rfl

/-- The pieces lack nothing but separators. -/
theorem filterMap_flatten_splitOn {α : Type} {f : Char → Option α}
    (apart : ∀ c, p c = true → f c = none) (s : List Char) :
    (splitOn p s).flatten.filterMap f = s.filterMap f := by
  induction s with
  | nil => rfl
  | cons c s ih =>
    rw [splitOn_cons]
    split
    next separates =>
      rw [List.flatten_cons, List.nil_append, ih, List.filterMap_cons_none (apart c separates)]
    next =>
      obtain ⟨first, others, pieces⟩ := List.exists_cons_of_ne_nil (splitOn_ne_nil p s)
      rw [pieces, List.flatten_cons] at ih
      rw [pieces]
      show (c :: (first ++ others.flatten)).filterMap f = _
      rw [List.filterMap_cons, List.filterMap_cons, ih]

end Text

namespace Line

/-- There is always a line. -/
theorem ofText_ne_nil (text : List Char) : ofText text ≠ [] := by
  rw [ofText, Ne, List.map_eq_nil_iff]
  exact Text.splitOn_ne_nil _ text

theorem length_ofText_le (text : List Char) : (ofText text).length ≤ text.length + 1 := by
  rw [ofText, List.length_map]
  exact Text.length_splitOn_le _ text

theorem withoutReturn_sublist (line : Line) : (withoutReturn line).Sublist line := by
  unfold withoutReturn
  split
  · exact List.dropLast_sublist line
  · exact List.Sublist.refl line

/-- Texts with a line feed between them have the lines of both. -/
theorem ofText_append (above below : List Char) :
    ofText (above ++ '\n' :: below) = ofText above ++ ofText below := by
  rw [ofText, Text.splitOn_append (by rfl), List.map_append]
  rfl

/-- A carriage return is dropped at the end of a line only. -/
theorem withoutReturn_append {mark : Char} (other : mark ≠ '\r') (front back : List Char) :
    withoutReturn (front ++ mark :: back) = front ++ mark :: withoutReturn back := by
  have last : (front ++ mark :: back).getLast? = some '\r' ↔ back.getLast? = some '\r' := by
    rw [List.getLast?_append_cons]
    cases back with
    | nil => simpa using other
    | cons c back => rw [List.getLast?_cons_cons]
  unfold withoutReturn
  split
  next ends =>
    rw [if_pos (last.mp ends)]
    have some_ : back ≠ [] := by
      rintro rfl
      cases last.mp ends
    rw [List.dropLast_append_cons, List.dropLast_cons_of_ne_nil some_]
  next goes => rw [if_neg fun ends => goes (last.mpr ends)]

/-- What is on the first line, and the lines below. -/
theorem ofText_mark {mark : Char} (solid : mark ≠ '\n') (other : mark ≠ '\r') {front : List Char}
    (none : '\n' ∉ front) (back : List Char) :
    ofText (front ++ mark :: back) =
      (front ++ mark :: (ofText back).headD []) :: (ofText back).tail := by
  have inLine : ∀ c ∈ front ++ [mark], (c == '\n') = false := by
    intro c mem
    rw [beq_eq_false_iff_ne]
    rintro rfl
    rcases List.mem_append.mp mem with mem | mem
    · exact none mem
    · exact solid (List.mem_singleton.mp mem).symm
  obtain ⟨first, others, pieces⟩ :=
    List.exists_cons_of_ne_nil (Text.splitOn_ne_nil (· == '\n') back)
  rw [List.append_cons, ofText, ofText, Text.splitOn_append_of_not inLine, pieces, List.map_cons,
    List.map_cons]
  show withoutReturn (front ++ [mark] ++ first) :: _ = _
  rw [List.append_assoc, List.singleton_append, withoutReturn_append other]
  rfl

/-- A text without a line feed is one line. -/
theorem exists_ofText_eq_singleton {text : List Char} (none : '\n' ∉ text) :
    ∃ line, ofText text = [line] := by
  have inLine : ∀ c ∈ text, (c == '\n') = false := by
    rintro c mem
    rw [beq_eq_false_iff_ne]
    rintro rfl
    exact none mem
  rw [ofText, ← List.append_nil text, Text.splitOn_append_of_not inLine]
  exact ⟨_, rfl⟩

theorem not_mem_rtakeWhile (text : List Char) : '\n' ∉ text.rtakeWhile (· != '\n') := by
  intro mem
  simpa using List.mem_rtakeWhile_imp mem

/-- What follows the last line feed of a text is all of it, or there is one. -/
theorem rtakeWhile_cases (text : List Char) :
    text.rtakeWhile (· != '\n') = text ∨
      ∃ above, text = above ++ '\n' :: text.rtakeWhile (· != '\n') := by
  have parts : text.rdropWhile (· != '\n') ++ text.rtakeWhile (· != '\n') = text :=
    List.rdropWhile_append_rtakeWhile
  rcases List.eq_nil_or_concat (text.rdropWhile (· != '\n')) with none | ⟨above, c, some_⟩
  · rw [none] at parts
    exact .inl parts
  · have feed : c = '\n' := by
      have last := List.rdropWhile_last_not (· != '\n') text (by simp [some_])
      simpa [some_] using last
    rw [some_, feed, List.concat_eq_append, List.append_assoc] at parts
    exact .inr ⟨above, parts.symm⟩

/-- **The lines around a text**, up to some character on one line, that is put between two others.
It is on the last line of what is above, whose lines number that line, and on the first line of what
is below. -/
theorem ofText_append_mark {mark : Char} (solid : mark ≠ '\n') (other : mark ≠ '\r')
    {text : List Char} (none : '\n' ∉ text) (above below : List Char) :
    ofText (above ++ (text ++ mark :: below)) =
      (ofText above).dropLast ++
        (above.rtakeWhile (· != '\n') ++ (text ++ mark :: (ofText below).headD [])) ::
          (ofText below).tail := by
  have whole := rtakeWhile_cases above
  have free := not_mem_rtakeWhile above
  generalize above.rtakeWhile (· != '\n') = last at whole free
  obtain ⟨line, alone⟩ := exists_ofText_eq_singleton free
  have here : ofText (last ++ (text ++ mark :: below)) =
      (last ++ (text ++ mark :: (ofText below).headD [])) :: (ofText below).tail := by
    have inLine : '\n' ∉ last ++ text := by
      rw [List.mem_append, not_or]
      exact ⟨free, none⟩
    rw [← List.append_assoc, ofText_mark solid other inLine, List.append_assoc]
  rcases whole with rfl | ⟨upper, rfl⟩
  · rw [alone, here]
    rfl
  · rw [List.append_assoc, List.cons_append, ofText_append, ofText_append, alone,
      List.dropLast_concat, here]

/-- To drop a carriage return is to drop nothing else. -/
theorem filterMap_withoutReturn {α : Type} {f : Char → Option α} (apart : f '\r' = none)
    (line : Line) : (withoutReturn line).filterMap f = line.filterMap f := by
  unfold withoutReturn
  split
  next ends =>
    obtain ⟨front, rfl⟩ := List.getLast?_eq_some_iff.mp ends
    rw [List.dropLast_concat, List.filterMap_append, List.filterMap_cons_none apart,
      List.filterMap_nil, List.append_nil]
  next => rfl

/-- The lines lack nothing but terminators. -/
theorem filterMap_flatten_ofText {α : Type} {f : Char → Option α} (feed : f '\n' = none)
    (carriage : f '\r' = none) (text : List Char) :
    (ofText text).flatten.filterMap f = text.filterMap f := by
  have kept : List.filterMap f ∘ withoutReturn = List.filterMap f :=
    funext (filterMap_withoutReturn carriage)
  rw [ofText, List.filterMap_flatten, List.map_map, kept, ← List.filterMap_flatten,
    Text.filterMap_flatten_splitOn]
  intro c separates
  rw [beq_iff_eq] at separates
  rw [separates, feed]

/-- What there is at a position stands between what comes before and what comes after. -/
theorem exists_append_of_getElem? {α : Type} {l : List α} {i : Nat} {x : α}
    (here : l[i]? = some x) :
    ∃ front back, l = front ++ x :: back ∧ front.length = i := by
  obtain ⟨lt, rfl⟩ := List.getElem?_eq_some_iff.mp here
  refine ⟨l.take i, l.drop (i + 1), ?_, List.length_take_of_le (Nat.le_of_lt lt)⟩
  rw [← List.drop_eq_getElem_cons lt, List.take_append_drop]

/-- The lines from a position on are the one at the position and those after it. -/
theorem of_drop_eq_cons {lines rest : List Line} {line : Line} {i : Nat}
    (here : lines.drop i = line :: rest) :
    lines[i]? = some line ∧ lines.drop (i + 1) = rest ∧ lines.length = i + 1 + rest.length := by
  have first : lines[i]? = some line := by
    rw [← List.head?_drop, here, List.head?_cons]
  have length := congrArg List.length here
  rw [List.length_drop, List.length_cons] at length
  refine ⟨first, ?_, by omega⟩
  rw [← List.tail_drop, here, List.tail_cons]

/-- The lines of a blank text are blank. -/
theorem isAllBlank_of_mem_ofText {text : List Char} (blank : Text.isAllBlank text = true)
    {line : Line} (mem : line ∈ ofText text) : Text.isAllBlank line = true := by
  obtain ⟨piece, inside, rfl⟩ := List.mem_map.mp mem
  rw [Text.isAllBlank, List.all_eq_true] at blank ⊢
  intro c kept
  exact blank c (Text.mem_of_mem_splitOn inside c ((withoutReturn_sublist piece).subset kept))

end Line
end CodeGloss
