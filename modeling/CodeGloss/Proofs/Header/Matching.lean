import CodeGloss.Proofs.Header.Readings
import CodeGloss.Proofs.Header.Steps

/-!
# What patterns and steps have in common

A scanner takes steps that are never undone, where a pattern may have to go back.  Here the pieces of
which the patterns of the rules are made are set against the steps of the scanners: wherever what
follows a piece refuses what the piece could have read or left, the piece leads on just where its step
does, and to the same place.

* `first_text`, `first_blanks`, `first_gap`, `first_apart`, `first_upTo`, `first_group`: fixed text,
  blanks, words that are set off, and groups.
* `first_optional_apart`, `first_optional_group`: the same, where they may be left out.
* `first_word`, `first_name_word`: names, as long as they are.
* `first_modifiers`: the places behind leading modifiers, those behind more of them first.
* `first_text_edge`: a word that ends.
-/

namespace CodeGloss
namespace Header
namespace Pattern

open Scanner Text

variable {β : Type} {line : List Char} {s : Cursor} {k : Cursor → Option β} {w : String}

/-! ## Fixed text -/

theorem first_foldr (l : List Char) :
    (l.foldr (fun c p => seq (one (· == c)) p) nothing).first line s k =
      if l.isPrefixOf s.rest then k (s.leaving (s.rest.drop l.length)) else none := by
  induction l generalizing s with
  | nil => exact first_nothing
  | cons a l ih =>
    rw [List.foldr_cons, first_seq]
    cases rest_eq : s.rest with
    | nil => rw [first_one_nil rest_eq]; rfl
    | cons c t =>
      rw [first_one_cons rest_eq, ih, List.isPrefixOf_cons_cons, Bool.beq_comm]
      cases a == c with
      | true => rfl
      | false => rfl

theorem first_text : (text w).first line s k = (after? w s.rest).bind fun t => k (s.leaving t) := by
  rw [text, first_foldr, after?, String.length_toList]
  split
  · rfl
  · rfl

theorem refuses_text {f : Char → Bool} (other : (w.toList.head?.any fun c => !f c) = true) :
    Refuses (fun s => (text w).first line s k) f := by
  intro s c first inside
  refine first_text.trans ?_
  rw [after?_of_head? (fun same => ?_) fun none_ => ?_]
  · rfl
  · rw [← same, Option.mem_def.mp first, Option.any_some, inside] at other
    cases other
  · rw [none_] at other
    cases other

theorem refuses_char {c : Char} {f : Char → Bool} (other : f c = false) :
    Refuses (fun s => (char c).first line s k) f :=
  refuses_one fun _ here => beq_iff_eq.mp here ▸ other

theorem first_char (c : Char) :
    (char c).first line s k =
      if s.rest.head? == some c then k (s.leaving s.rest.tail) else none := by
  rw [char]
  cases rest_eq : s.rest with
  | nil => rw [first_one_nil rest_eq]; rfl
  | cons d t => rw [first_one_cons rest_eq]; rfl

theorem first_char_of_toList {c : Char} (word_eq : w.toList = [c]) :
    (char c).first line s k = (after? w s.rest).bind fun t => k (s.leaving t) := by
  rw [first_char, after?_eq_ite word_eq]
  split
  · rfl
  · rfl

/-! ## Blanks -/

theorem beq_eq_false_of_isBlank {c : Char} (solid : isBlank c = false) :
    ∀ d, isBlank d = true → (d == c) = false := by
  intro d blank
  refine beq_eq_false_iff_ne.mpr ?_
  rintro rfl
  rw [solid] at blank
  cases blank

theorem first_blanks (refuses : Refuses k isBlank) :
    blanks.first line s k = k (s.leaving (trimStart s.rest)) :=
  first_many_one refuses

theorem first_gap (refuses : Refuses k isBlank) :
    gap.first line s k = (afterBlanks? s.rest).bind fun t => k (s.leaving t) := by
  rw [gap, first_seq]
  cases rest_eq : s.rest with
  | nil => rw [first_one_nil rest_eq]; rfl
  | cons c t =>
    rw [first_one_cons rest_eq, first_blanks refuses, afterBlanks?]
    split
    · rfl
    · rfl

theorem refuses_gap {f : Char → Bool} (other : ∀ c, isBlank c = true → f c = false) :
    Refuses (fun s => gap.first line s k) f := by
  intro s c first inside
  exact (first_seq _ _).trans (refuses_one other s c first inside)

theorem first_apart (refuses : Refuses k isBlank) :
    (apart w).first line s k = (afterWord? w s.rest).bind fun t => k (s.leaving t) := by
  rw [apart, first_seq, first_text, afterWord?, Option.bind_assoc]
  refine Option.bind_congr fun t _ => ?_
  exact first_gap refuses

theorem refuses_apart {f : Char → Bool} (other : (w.toList.head?.any fun c => !f c) = true) :
    Refuses (fun s => (apart w).first line s k) f := by
  intro s c first inside
  exact (first_seq _ _).trans (refuses_text other s c first inside)

theorem refuses_blanks {f : Char → Bool} (other : ∀ c, isBlank c = true → f c = false)
    (behind : Refuses k f) : Refuses (fun s => blanks.first line s k) f :=
  refuses_many_one other behind

/-- What may be left out is never left out where it stands, if nothing comes of a text that it could
have been read from. -/
theorem first_optional_of_step {p : Pattern} {step : Option (List Char)}
    (read : p.first line s k = step.bind fun t => k (s.leaving t))
    (behind : ∀ t, step = some t → k s = none) :
    (optional p).first line s k = k (s.leaving (step.getD s.rest)) := by
  rw [first_optional, read]
  cases step with
  | none => rfl
  | some t => rw [behind t rfl, Option.or_none]; rfl

/-- So it is if what follows refuses the first character of what may be left out. -/
theorem eq_none_of_after? {c : Char} (starts : w.toList.head? = some c)
    (refuses : Refuses k (· == c)) {t : List Char} (found : after? w s.rest = some t) :
    k s = none := by
  refine refuses s c ?_ (beq_self_eq_true c)
  have some_ : w.toList ≠ [] := fun none_ => by rw [none_] at starts; cases starts
  rw [after?_eq_some_iff.mp found, List.head?_append_of_ne_nil _ some_, starts]
  rfl

theorem first_optional_apart {c : Char} (refuses : Refuses k isBlank)
    (starts : w.toList.head? = some c) (other : Refuses k (· == c)) :
    (optional (apart w)).first line s k = k (s.leaving (skipWord w s.rest)) := by
  refine first_optional_of_step (first_apart refuses) fun t found => ?_
  obtain ⟨u, start, -⟩ := Option.bind_eq_some_iff.mp found
  exact eq_none_of_after? starts other start

/-! ### Words that may be left out -/

section Skipping

variable {words : List String}

/-- What comes of a text behind some words that may be left out, one after the other. -/
def skipping (line : List Char) (words : List String) (k : Cursor → Option β) :
    Cursor → Option β :=
  words.foldr (fun w k s => (optional (apart w)).first line s k) k

/-- Whether one of some words starts with a character. -/
def startsOneOf (words : List String) (c : Char) : Bool :=
  words.any fun w => w.toList.head? == some c

theorem refuses_skipping {f : Char → Bool}
    (other : (words.all fun w => w.toList.head?.any fun c => !f c) = true) (behind : Refuses k f) :
    Refuses (skipping line words k) f := by
  induction words with
  | nil => exact behind
  | cons w words ih =>
    obtain ⟨here, others⟩ := Bool.and_eq_true_iff.mp other
    exact refuses_optional (refuses_apart here) (ih others)

/-- Words with different first characters are skipped where they stand. -/
theorem first_skipping
    (apart_ : words.Pairwise fun w w' => w.toList.head? ≠ w'.toList.head?)
    (solid : areSolid words = true) (refuses : Refuses k isBlank)
    (behind : Refuses k (startsOneOf words)) :
    skipping line words k s = k (s.leaving (skipWords words s.rest)) := by
  induction words generalizing s with
  | nil => rfl
  | cons w words ih =>
    obtain ⟨here, others⟩ := Bool.and_eq_true_iff.mp solid
    obtain ⟨apart_w, apart_⟩ := List.pairwise_cons.mp apart_
    obtain ⟨c, rest, word_eq⟩ :=
      List.exists_cons_of_ne_nil (solid_of_mem solid List.mem_cons_self).1
    have starts : w.toList.head? = some c := by rw [word_eq]; rfl
    have blank : Refuses (skipping line words k) isBlank :=
      refuses_skipping (all_starts others) refuses
    have other : Refuses (skipping line words k) (· == c) := by
      refine refuses_skipping (List.all_eq_true.mpr fun w' mem => ?_) ?_
      · obtain ⟨d, rest', word_eq'⟩ :=
          List.exists_cons_of_ne_nil (solid_of_mem others mem).1
        have differ := apart_w w' mem
        rw [word_eq, word_eq'] at differ
        rw [word_eq']
        have ne : d ≠ c := fun same => differ (by rw [same]; rfl)
        simpa using ne
      · intro s d first inside
        refine behind s d first ?_
        rw [startsOneOf, List.any_cons, starts, beq_iff_eq.mp inside, beq_self_eq_true,
          Bool.true_or]
    have rest_ := ih (s := s.leaving (skipWord w s.rest)) apart_ others fun s d first inside =>
      behind s d first (by
        rw [startsOneOf, List.any_cons, Bool.or_eq_true]
        exact .inr inside)
    exact (first_optional_apart blank starts other).trans rest_

end Skipping

/-! ## Groups -/

theorem first_char_dropWhile {c : Char} (t : List Char) :
    (char c).first line (s.leaving (t.dropWhile (· != c))) k =
      (afterFirst? c t).bind fun u => k (s.leaving u) := by
  rw [first_char, afterFirst?, Cursor.rest_leaving]
  have stop := stop_dropWhile (· != c) t
  cases left : t.dropWhile (· != c) with
  | nil => rfl
  | cons d u =>
    have here : d = c := by simpa using stop d (by rw [left]; rfl)
    subst here
    rw [List.head?_cons, beq_self_eq_true, if_pos rfl]
    rfl

theorem first_upTo {c : Char} :
    (upTo c).first line s k = (afterFirst? c s.rest).bind fun t => k (s.leaving t) := by
  have refuses : Refuses (fun s => (char c).first line s k) (· != c) :=
    refuses_char (bne_self_eq_false c)
  rw [upTo, first_seq, first_many_one refuses, first_char_dropWhile]

theorem first_group {opening closing : Char} :
    (group opening closing).first line s k =
      if s.rest.head? == some opening then
        (afterFirst? closing s.rest.tail).bind fun t => k (s.leaving t)
      else none := by
  rw [group, first_seq, first_char, first_upTo]
  rfl

theorem refuses_group {opening closing : Char} {f : Char → Bool} (other : f opening = false) :
    Refuses (fun s => (group opening closing).first line s k) f := by
  intro s c first inside
  exact (first_seq _ _).trans (refuses_char other s c first inside)

theorem first_optional_group {opening closing : Char} (refuses : Refuses k (· == opening)) :
    (optional (group opening closing)).first line s k =
      (skipGroup? opening closing s.rest).bind fun t => k (s.leaving t) := by
  rw [first_optional, first_group]
  cases rest_eq : s.rest with
  | nil =>
    have stay : s.leaving [] = s := by rw [← rest_eq, Cursor.leaving_rest]
    rw [skipGroup?, Option.bind_some, stay]
    rfl
  | cons c t =>
    rw [List.head?_cons, skipGroup?]
    by_cases here : c = opening
    · rw [here, beq_self_eq_true, beq_self_eq_true, if_pos rfl, if_pos rfl,
        refuses s c (by rw [rest_eq]; rfl) (beq_iff_eq.mpr here), Option.or_none]
      rfl
    · have other : ¬(some c == some opening) = true := fun same =>
        here (Option.some_inj.mp (beq_iff_eq.mp same))
      rw [if_neg other, if_neg (mt beq_iff_eq.mp here), Option.none_or, Option.bind_some,
        ← rest_eq]
      rfl

/-! ## Names -/

section Names

variable {first other : Char → Bool}

theorem refuses_word {f : Char → Bool} (start : ∀ c, first c = true → f c = false) :
    Refuses (fun s => (word first other).first line s k) f := by
  intro s c here inside
  exact (first_seq _ _).trans (refuses_one start s c here inside)

theorem refuses_name_word {f : Char → Bool} (start : ∀ c, first c = true → f c = false) :
    Refuses (fun s => (name (word first other)).first line s k) f := by
  intro s c here inside
  exact (first_name _).trans (refuses_word start s c here inside)

theorem first_word (refuses : Refuses k other) :
    (word first other).first line s k =
      (name? first other s.rest).bind fun found => k (s.leaving found.2) := by
  rw [word, first_seq]
  cases rest_eq : s.rest with
  | nil => rw [first_one_nil rest_eq]; rfl
  | cons c t =>
    rw [first_one_cons rest_eq, first_many_one refuses, name?]
    split
    · rfl
    · rfl

theorem between_leaving {front t : List Char} (whole : s.rest = front ++ t) :
    s.between (s.leaving t) = front := by
  rw [Cursor.between, Cursor.rest_leaving, whole, List.length_append, Nat.add_sub_cancel,
    List.take_left]

/-- A name is found as it stands. -/
theorem first_name_word (refuses : Refuses k other) :
    (name (word first other)).first line s k =
      (name? first other s.rest).bind fun found =>
        k { rest := found.2, capture := { s.capture with name := found.1 } } := by
  rw [first_name]
  refine (first_word
    (k := fun s' => k { s' with capture := { s'.capture with name := s.between s' } })
    fun s' c here inside => refuses _ c here inside).trans ?_
  refine Option.bind_congr fun found read => ?_
  rw [between_leaving (name?_eq_some_iff.mp read).2.2]
  rfl

end Names

/-! ## Words that end -/

theorem isEdge_of_suffix {front t : List Char} {c : Char} (whole : line = front ++ c :: t) :
    isEdge line t = (isWord c != t.head?.any isWord) := by
  have before : line.take (line.length - t.length) = front ++ [c] := by
    rw [whole, List.append_cons, List.length_append, Nat.add_sub_cancel, List.take_left]
  rw [isEdge, before, List.getLast?_append_of_ne_nil _ (List.cons_ne_nil _ _)]
  rfl

theorem first_edge_of_isWord {front : List Char} {c : Char} (whole : line = front ++ c :: s.rest)
    (word : isWord c = true) : edge.first line s k = if atWordEnd s.rest then k s else none := by
  rw [first_edge, isEdge_of_suffix whole, word]
  cases s.rest with
  | nil => rfl
  | cons d t =>
    rw [List.head?_cons, Option.any_some, atWordEnd]
    cases isWord d with
    | true => rfl
    | false => rfl

/-- A word whose last character is a word character ends where no other one follows. -/
theorem first_text_edge {c : Char} (suffix : s.rest <:+ line) (ends : w.toList.getLast? = some c)
    (word : isWord c = true) :
    ((text w).first line s fun s' => edge.first line s' k) =
      (after? w s.rest).bind fun t => if atWordEnd t then k (s.leaving t) else none := by
  rw [first_text]
  refine Option.bind_congr fun t found => ?_
  obtain ⟨front, whole⟩ := suffix
  obtain ⟨init, word_eq⟩ := List.getLast?_eq_some_iff.mp ends
  have whole' : line = (front ++ init) ++ c :: t := by
    rw [← whole, after?_eq_some_iff.mp found, word_eq]
    simp only [List.append_assoc, List.singleton_append]
  exact first_edge_of_isWord whole' word

theorem first_word_end {c : Char} (suffix : s.rest <:+ line)
    (ends : w.toList.getLast? = some c) (word : isWord c = true) :
    ((text w).first line s fun s => edge.first line s fun s => some s.capture) =
      if startsWord w s.rest then some s.capture else none := by
  rw [first_text_edge suffix ends word, startsWord]
  cases after? w s.rest with
  | none => rfl
  | some t => rfl

/-! ## Modifiers -/

section Modifiers

variable {words : List String}

theorem first_anyOf_text :
    (anyOf (words.map text)).first line s k =
      words.findSome? fun w => (after? w s.rest).bind fun t => k (s.leaving t) := by
  induction words with
  | nil => exact first_none
  | cons w words ih =>
    have either_eq : (anyOf ((w :: words).map text)).first line s k =
        ((text w).first line s k).or ((anyOf (words.map text)).first line s k) :=
      first_either _ _
    rw [either_eq, ih, first_text, List.findSome?_cons]
    cases (after? w s.rest).bind fun t => k (s.leaving t) with
    | none => rfl
    | some b => rfl

/-- If all words that are found leave the same text, it does not matter which of them is found. -/
theorem findSome?_bind {α : Type} {f : String → Option α} {g : α → Option β} {a : α}
    (same : ∀ w ∈ words, ∀ b, f w = some b → b = a) :
    (words.findSome? fun w => (f w).bind g) = (words.findSome? f).bind g := by
  induction words with
  | nil => rfl
  | cons w words ih =>
    obtain ⟨here, others⟩ := List.forall_mem_cons.mp same
    rw [List.findSome?_cons, List.findSome?_cons]
    cases found : f w with
    | none => exact ih others
    | some b =>
      rw [Option.bind_some]
      cases leads : g b with
      | some _ => rfl
      | none =>
        rw [ih others]
        cases found' : words.findSome? f with
        | none => rfl
        | some b' =>
          obtain ⟨w', mem, read⟩ := List.exists_of_findSome?_eq_some found'
          rw [Option.bind_some, others w' mem b' read, ← here b found, leads]

theorem first_anyApart (solid : areSolid words = true) (refuses : Refuses k isBlank) :
    (anyApart words).first line s k =
      (afterAnyWord? words s.rest).bind fun t => k (s.leaving t) := by
  rw [anyApart, first_seq, first_anyOf_text, afterAnyWord?, ← findSome?_bind fun w mem t found =>
    (eq_of_afterWord? (solid_of_mem solid mem).2 found).2.2]
  refine congrArg (words.findSome? ·) (funext fun w => ?_)
  rw [← first_apart refuses, apart, first_seq, first_text]

theorem refuses_anyApart {f : Char → Bool}
    (other : (words.all fun w => w.toList.head?.any fun c => !f c) = true) :
    Refuses (fun s => (anyApart words).first line s k) f := by
  intro s c first inside
  refine (first_seq _ _).trans (first_anyOf_text.trans ?_)
  refine List.findSome?_eq_none_iff.mpr fun w mem => ?_
  have refused : Refuses (fun s => (text w).first line s fun s => gap.first line s k) f :=
    refuses_text (List.all_eq_true.mp other w mem)
  exact first_text.symm.trans (refused s c first inside)

theorem length_lt_of_mem_runs_anyApart {s' : Cursor} (mem : s' ∈ (anyApart words).runs line s) :
    s'.rest.length < s.rest.length := by
  obtain ⟨m, mem, more⟩ := List.mem_flatMap.mp mem
  have before := (suffix_of_mem_runs mem).length_le
  obtain ⟨m', mem, more⟩ := List.mem_flatMap.mp more
  have blank := length_lt_of_mem_runs_one mem
  have behind := (suffix_of_mem_runs more).length_le
  omega

theorem refuses_modifiers {f : Char → Bool}
    (other : (words.all fun w => w.toList.head?.any fun c => !f c) = true) (behind : Refuses k f) :
    Refuses (fun s => (many (anyApart words)).first line s k) f := by
  intro s c first inside
  refine (first_many fun s' mem => length_lt_of_mem_runs_anyApart mem).trans ?_
  exact Option.or_eq_none_iff.mpr
    ⟨refuses_anyApart other s c first inside, behind s c first inside⟩

/-- The places behind leading modifiers are tried in turn, those behind more of them first. -/
theorem first_modifiers (solid : areSolid words = true) (refuses : Refuses k isBlank) :
    (many (anyApart words)).first line s k =
      (afterModifiers words s.rest []).findSome? fun t => k (s.leaving t) := by
  have refuses' : Refuses (fun s => (many (anyApart words)).first line s k) isBlank :=
    refuses_modifiers (all_starts solid) refuses
  induction length : s.rest.length using Nat.strong_induction_on generalizing s with
  | _ n ih =>
    rw [first_many fun s' mem => length_lt_of_mem_runs_anyApart mem, first_anyApart solid refuses']
    cases found : afterAnyWord? words s.rest with
    | none =>
      rw [Option.bind_none, Option.none_or, afterModifiers_of_none found, List.findSome?_singleton,
        Cursor.leaving_rest]
    | some t =>
      have shorter := length_lt_of_afterAnyWord? found
      rw [Option.bind_some, ih t.length (length ▸ shorter) (s := s.leaving t) rfl,
        afterModifiers_of_some found, List.findSome?_append, List.findSome?_singleton,
        Cursor.leaving_rest]
      rfl

/-- If what follows refuses all modifiers, the place behind all of them is the only one. -/
theorem first_all_modifiers (solid : areSolid words = true) (refuses : Refuses k isBlank)
    (other : Refuses k (startsOneOf words)) :
    (many (anyApart words)).first line s k =
      k (s.leaving ((afterModifiers words s.rest []).headD s.rest)) := by
  have refused : ∀ {t u : List Char}, afterAnyWord? words t = some u → k (s.leaving t) = none := by
    intro t u found
    obtain ⟨w, mem, found⟩ := List.exists_of_findSome?_eq_some found
    obtain ⟨_, start, -⟩ := Option.bind_eq_some_iff.mp found
    obtain ⟨c, rest, word_eq⟩ := List.exists_cons_of_ne_nil (solid_of_mem solid mem).1
    refine other (s.leaving t) c ?_ (List.any_eq_true.mpr ⟨w, mem, ?_⟩)
    · rw [Cursor.rest_leaving, after?_eq_some_iff.mp start, word_eq]
      rfl
    · rw [word_eq, List.head?_cons, beq_self_eq_true]
  rw [first_modifiers solid refuses]
  generalize s.rest = t
  induction length : t.length using Nat.strong_induction_on generalizing t with
  | _ n ih =>
    cases found : afterAnyWord? words t with
    | none => rw [afterModifiers_of_none found]; exact List.findSome?_singleton
    | some u =>
      have shorter := length_lt_of_afterAnyWord? found
      rw [afterModifiers_of_some found, List.findSome?_append, List.findSome?_singleton,
        refused found, Option.or_none, ih u.length (length ▸ shorter) u rfl]
      cases more : afterModifiers words u [] with
      | nil => exact absurd more (afterModifiers_ne_nil u)
      | cons v others => rfl

end Modifiers

end Pattern
end Header
end CodeGloss
