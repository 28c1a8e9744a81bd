import CodeGloss.Header.Scanner
import CodeGloss.Proofs.Text.Lines

/-!
# What the steps of a header rule read

Each step of a header rule takes something off the beginning of what is left of a line.  Here it is
said what that is, and that nothing else is taken: a step leads from one text to another one if and
only if the first is something of the right form, followed by the second.

* `after?_eq_some_iff`, `afterFirst?_eq_some_iff`, `afterBlanks?_eq_some_iff`,
  `afterWord?_eq_some_iff`: fixed text, text up to a character, blanks, and a word with the blanks
  that set it off.
* `name?_eq_some_iff`: the longest name.
* `exists_of_mem_afterModifiers`: leading modifiers, as many of them as one likes.

Blanks and names are read as far as they go, so what is left does not go on with a blank
(`Text.Flush`) or with a character of the name.  No character of a name is blank
(`Text.isBlank_of_isWord`), though both classes reach far beyond ASCII.
-/

namespace CodeGloss

namespace Text

variable {p : Char → Bool} {s t : List Char}

/-- The beginning of a text that is made of one class of characters, where it ends for the first
time. -/
theorem takeWhile_append_of_stop (inside : ∀ c ∈ s, p c = true)
    (stop : ∀ c ∈ t.head?, p c = false) : (s ++ t).takeWhile p = s := by
  rw [List.takeWhile_append_of_pos inside]
  cases t with
  | nil => rw [List.takeWhile_nil, List.append_nil]
  | cons c t => rw [List.takeWhile_cons, stop c rfl, if_neg Bool.false_ne_true, List.append_nil]

theorem dropWhile_append_of_stop (inside : ∀ c ∈ s, p c = true)
    (stop : ∀ c ∈ t.head?, p c = false) : (s ++ t).dropWhile p = t := by
  rw [List.dropWhile_append_of_pos inside]
  cases t with
  | nil => rfl
  | cons c t => rw [List.dropWhile_cons, stop c rfl, if_neg Bool.false_ne_true]

theorem stop_dropWhile (p : Char → Bool) (s : List Char) :
    ∀ c ∈ (s.dropWhile p).head?, p c = false := by
  intro c first
  have not_ := List.head?_dropWhile_not p s
  rw [Option.mem_def.mp first] at not_
  exact not_

/-! ## Blanks -/

/-- Whether a text does not start with a blank. -/
def Flush (s : List Char) : Prop :=
  ∀ c ∈ s.head?, isBlank c = false

theorem isAllBlank_iff : isAllBlank s = true ↔ ∀ c ∈ s, isBlank c = true :=
  List.all_eq_true

theorem isAllBlank_append (before : isAllBlank s = true) (behind : isAllBlank t = true) :
    isAllBlank (s ++ t) = true := by
  rw [isAllBlank, List.all_append, Bool.and_eq_true]
  exact ⟨before, behind⟩

theorem flush_trimStart (s : List Char) : Flush (trimStart s) :=
  stop_dropWhile isBlank s

theorem trimStart_of_flush (flush : Flush s) : trimStart s = s :=
  dropWhile_append_of_stop (s := []) nofun flush

theorem trimStart_append (blank : isAllBlank s = true) (t : List Char) :
    trimStart (s ++ t) = trimStart t :=
  List.dropWhile_append_of_pos (isAllBlank_iff.mp blank)

/-- Nor does a text that starts with something without blanks. -/
theorem flush_append (some_ : s ≠ []) (solid : ∀ c ∈ s, isBlank c = false) (t : List Char) :
    Flush (s ++ t) := by
  intro c first
  rw [List.head?_append_of_ne_nil _ some_] at first
  exact solid c (List.mem_of_mem_head? first)

/-- Blanks, and a text that does not start with one. -/
theorem exists_trimStart (s : List Char) : ∃ gap, isAllBlank gap = true ∧ s = gap ++ trimStart s :=
  ⟨s.takeWhile isBlank, isAllBlank_iff.mpr fun _ mem => List.mem_takeWhile_imp mem,
    List.takeWhile_append_dropWhile.symm⟩

/-- A text that does not end with a blank, and blanks. -/
theorem exists_trimEnd (s : List Char) : ∃ gap, isAllBlank gap = true ∧ s = trimEnd s ++ gap := by
  obtain ⟨gap, blank, whole⟩ := exists_trimStart s.reverse
  refine ⟨gap.reverse, ?_, ?_⟩
  · exact isAllBlank_iff.mpr fun c mem => isAllBlank_iff.mp blank c (List.mem_reverse.mp mem)
  · rw [trimEnd, ← trimStart, ← List.reverse_append, ← whole, List.reverse_reverse]

theorem trimEnd_append (solid : ∀ c ∈ s.getLast?, isBlank c = false)
    (blank : isAllBlank t = true) : trimEnd (s ++ t) = s := by
  have backwards : ∀ c ∈ t.reverse, isBlank c = true := fun c mem =>
    isAllBlank_iff.mp blank c (List.mem_reverse.mp mem)
  rw [trimEnd, List.reverse_append, dropWhile_append_of_stop backwards, List.reverse_reverse]
  rwa [List.head?_reverse]

theorem ends_trimEnd (s : List Char) : ∀ c ∈ (trimEnd s).getLast?, isBlank c = false := by
  intro c last
  rw [trimEnd, List.getLast?_reverse] at last
  exact flush_trimStart s.reverse c last

theorem isAllBlank_of_trimEnd {t : List Char} (none_ : trimEnd t = []) : isAllBlank t = true := by
  obtain ⟨gap, blank, whole⟩ := exists_trimEnd t
  rw [none_, List.nil_append] at whole
  rwa [whole]

/-- A text that does not end with a blank is not made of blanks. -/
theorem eq_nil_of_isAllBlank {t : List Char} (ends : ∀ c ∈ t.getLast?, isBlank c = false)
    (blank : isAllBlank t = true) : t = [] := by
  rcases List.eq_nil_or_concat t with none_ | ⟨init, d, rfl⟩
  · exact none_
  · rw [List.concat_eq_append] at ends blank
    have blank_d := isAllBlank_iff.mp blank d List.mem_concat_self
    rw [ends d List.getLast?_concat] at blank_d
    cases blank_d

theorem ends_of_suffix {t u : List Char} (ends : ∀ c ∈ t.getLast?, isBlank c = false)
    (suffix : u <:+ t) : ∀ c ∈ u.getLast?, isBlank c = false := by
  intro c last
  obtain ⟨y, rfl⟩ := suffix
  refine ends c ?_
  rwa [List.getLast?_append_of_ne_nil]
  rintro rfl
  cases last

theorem eq_nil_of_trimStart {t : List Char} (ends : ∀ c ∈ t.getLast?, isBlank c = false)
    (none_ : trimStart t = []) : t = [] := by
  obtain ⟨gap, blank, whole⟩ := exists_trimStart t
  rw [none_, List.append_nil] at whole
  exact eq_nil_of_isAllBlank ends (whole ▸ blank)

theorem trimStart_append_of_ne_nil {t u : List Char} (some_ : trimStart t ≠ []) :
    trimStart (t ++ u) = trimStart t ++ u := by
  obtain ⟨gap, blank, whole⟩ := exists_trimStart t
  have flush := flush_trimStart t
  conv_lhs => rw [whole, List.append_assoc, trimStart_append blank]
  refine trimStart_of_flush fun c first => flush c ?_
  rwa [List.head?_append_of_ne_nil _ some_] at first

/-- A text without blanks has none at its ends. -/
theorem trim_of_solid (solid : ∀ c ∈ s, isBlank c = false) : trim s = s := by
  have flush : ∀ t : List Char, (∀ c ∈ t, isBlank c = false) → t.dropWhile isBlank = t :=
    fun t solid => trimStart_of_flush fun c first => solid c (List.mem_of_mem_head? first)
  have backwards : ∀ c ∈ s.reverse, isBlank c = false := fun c mem =>
    solid c (List.mem_reverse.mp mem)
  rw [trim, trimStart, flush s solid, trimEnd, flush s.reverse backwards, List.reverse_reverse]

theorem inRanges_eq_true_iff {ranges : List (Nat × Nat)} {n : Nat} :
    inRanges ranges n = true ↔ ∃ r ∈ ranges, r.1 ≤ n ∧ n ≤ r.2 := by
  simp only [inRanges, List.any_eq_true, Bool.and_eq_true, decide_eq_true_eq]

/-- The blanks above ASCII, as inclusive ranges of code points. -/
def blankRanges : List (Nat × Nat) :=
  [(0x85, 0x85), (0xA0, 0xA0), (0x1680, 0x1680), (0x2000, 0x200A), (0x2028, 0x2029),
    (0x202F, 0x202F), (0x205F, 0x205F), (0x3000, 0x3000)]

theorem inRanges_blankRanges {c : Char} (large : 128 ≤ c.toNat) (blank : isBlank c = true) :
    inRanges blankRanges c.toNat = true := by
  simp only [isBlank, Bool.or_eq_true, Bool.and_eq_true, decide_eq_true_eq, beq_iff_eq] at blank
  simp only [inRanges, blankRanges, List.any_cons, List.any_nil, Bool.or_eq_true,
    Bool.and_eq_true, decide_eq_true_eq]
  omega

/-- No word character is blank. -/
theorem isBlank_of_isWord {c : Char} (word : isWord c = true) : isBlank c = false := by
  refine Bool.eq_false_iff.mpr fun blank => ?_
  by_cases small : c.toNat < 128
  · have apart : ∀ n < 128, isWord (Char.ofNat n) = true → isBlank (Char.ofNat n) = false := by
      decide
    have other := apart c.toNat small
    rw [Char.ofNat_toNat, blank] at other
    cases other word
  · rw [isWord, if_neg small] at word
    obtain ⟨r, mem, le, ge⟩ := inRanges_eq_true_iff.mp word
    obtain ⟨b, mem', le', ge'⟩ :=
      inRanges_eq_true_iff.mp (inRanges_blankRanges (Nat.le_of_not_lt small) blank)
    have apart : (wordRanges.all fun r => blankRanges.all fun b =>
        Nat.blt r.2 b.1 || Nat.blt b.2 r.1) = true := by
      decide +kernel
    have apart := List.all_eq_true.mp (List.all_eq_true.mp apart r mem) b mem'
    simp only [Bool.or_eq_true, Nat.blt_eq] at apart
    omega

theorem isWord_eq_false_of_isBlank {c : Char} (blank : isBlank c = true) : isWord c = false := by
  refine Bool.eq_false_iff.mpr fun word => ?_
  rw [isBlank_of_isWord word] at blank
  cases blank

end Text

namespace Header
namespace Scanner

open Text

variable {s t name : List Char} {word : String}

/-! ## Fixed text -/

/-- Whether a text is made of blanks, at least one. -/
def IsGap (s : List Char) : Prop :=
  s ≠ [] ∧ isAllBlank s = true

/-- Whether a text is a word and the blanks that set it off. -/
def IsWordAndGap (word : String) (s : List Char) : Prop :=
  ∃ gap, IsGap gap ∧ s = word.toList ++ gap

theorem after?_eq_some_iff : after? word s = some t ↔ s = word.toList ++ t := by
  have length : word.length = word.toList.length := String.length_toList.symm
  unfold after?
  constructor
  · intro found
    split at found
    next starts =>
      cases found
      rw [length]
      exact (List.prefix_iff_eq_append.mp (List.isPrefixOf_iff_prefix.mp starts)).symm
    next => cases found
  · rintro rfl
    rw [if_pos (List.isPrefixOf_iff_prefix.mpr (List.prefix_append _ _)), length, List.drop_left]

theorem after?_eq_ite {c : Char} (word_eq : word.toList = [c]) (t : List Char) :
    after? word t = if t.head? == some c then some t.tail else none := by
  refine Option.ext fun u => ?_
  rw [after?_eq_some_iff, word_eq]
  cases t with
  | nil => exact iff_of_false nofun nofun
  | cons d t =>
    rw [List.singleton_append, List.cons.injEq, List.head?_cons, List.tail_cons]
    by_cases here : d = c
    · rw [here, beq_self_eq_true, if_pos rfl, and_iff_right rfl, Option.some_inj]
    · rw [if_neg fun same => here (Option.some_inj.mp (beq_iff_eq.mp same))]
      exact iff_of_false (fun same => here same.1) nofun

theorem afterFirst?_eq_none_iff {c : Char} {t : List Char} :
    afterFirst? c t = none ↔ t.dropWhile (· != c) = [] := by
  unfold afterFirst?
  cases t.dropWhile (· != c) with
  | nil => exact iff_of_true rfl rfl
  | cons d u => exact iff_of_false nofun nofun

theorem afterFirst?_eq_some_iff {c : Char} :
    afterFirst? c s = some t ↔ ∃ front, c ∉ front ∧ s = front ++ c :: t := by
  constructor
  · intro found
    have whole := (List.takeWhile_append_dropWhile (p := (· != c)) (l := s)).symm
    have stop := stop_dropWhile (· != c) s
    unfold afterFirst? at found
    split at found
    next => cases found
    next d rest left =>
      cases found
      rw [left] at whole stop
      have here : d = c := by simpa using stop d rfl
      refine ⟨s.takeWhile (· != c), fun mem => ?_, here ▸ whole⟩
      exact bne_iff_ne.mp (List.mem_takeWhile_imp (p := (· != c)) mem) rfl
  · rintro ⟨front, free, rfl⟩
    have others : ∀ d ∈ front, (d != c) = true := by
      intro d mem
      rw [bne_iff_ne]
      rintro rfl
      exact free mem
    have here : ∀ d ∈ (c :: t).head?, (d != c) = false := by
      rintro d ⟨⟩
      exact bne_self_eq_false c
    rw [afterFirst?, dropWhile_append_of_stop others here]

theorem afterBlanks?_eq_some_iff :
    afterBlanks? s = some t ↔ Flush t ∧ ∃ gap, IsGap gap ∧ s = gap ++ t := by
  constructor
  · intro found
    unfold afterBlanks? at found
    split at found
    next => cases found
    next c rest =>
      split at found
      next blank =>
        cases found
        obtain ⟨gap, blanks, whole⟩ := exists_trimStart rest
        refine ⟨flush_trimStart rest, c :: gap, ⟨List.cons_ne_nil _ _, ?_⟩, ?_⟩
        · exact isAllBlank_iff.mpr (List.forall_mem_cons.mpr ⟨blank, isAllBlank_iff.mp blanks⟩)
        · rw [List.cons_append, ← whole]
      next => cases found
  · rintro ⟨flush, gap, ⟨some_, blanks⟩, rfl⟩
    obtain ⟨c, gap, rfl⟩ := List.exists_cons_of_ne_nil some_
    obtain ⟨blank, blanks⟩ := List.forall_mem_cons.mp (isAllBlank_iff.mp blanks)
    rw [List.cons_append, afterBlanks?, if_pos blank, trimStart_append (isAllBlank_iff.mpr blanks),
      trimStart_of_flush flush]

theorem afterWord?_eq_some_iff :
    afterWord? word s = some t ↔ Flush t ∧ ∃ front, IsWordAndGap word front ∧ s = front ++ t := by
  simp only [afterWord?, Option.bind_eq_some_iff, after?_eq_some_iff, afterBlanks?_eq_some_iff]
  constructor
  · rintro ⟨_, rfl, flush, gap, is, rfl⟩
    exact ⟨flush, _, ⟨gap, is, rfl⟩, (List.append_assoc _ _ _).symm⟩
  · rintro ⟨flush, _, ⟨gap, is, rfl⟩, rfl⟩
    exact ⟨gap ++ t, List.append_assoc _ _ _, flush, gap, is, rfl⟩

/-- A word that is skipped, or nothing, and what is left. -/
theorem exists_skipWord (word : String) (s : List Char) :
    ∃ front, s = front ++ skipWord word s ∧ (front = [] ∨ IsWordAndGap word front) := by
  unfold skipWord
  cases found : afterWord? word s with
  | none => exact ⟨[], rfl, .inl rfl⟩
  | some t =>
    obtain ⟨-, front, is, rfl⟩ := afterWord?_eq_some_iff.mp found
    exact ⟨front, rfl, .inr is⟩

theorem IsWordAndGap.head? {front : List Char} (is : IsWordAndGap word front)
    (some_ : word.toList ≠ []) (t : List Char) : (front ++ t).head? = word.toList.head? := by
  obtain ⟨gap, -, rfl⟩ := is
  rw [List.append_assoc, List.head?_append_of_ne_nil _ some_]

/-- What does not start with the first character of a word is left as it is. -/
theorem after?_of_head? (other : s.head? ≠ word.toList.head?) (some_ : word.toList ≠ []) :
    after? word s = none := by
  refine Option.eq_none_iff_forall_ne_some.mpr fun t found => other ?_
  rw [after?_eq_some_iff.mp found, List.head?_append_of_ne_nil _ some_]

theorem afterWord?_of_head? (other : s.head? ≠ word.toList.head?) (some_ : word.toList ≠ []) :
    afterWord? word s = none := by
  rw [afterWord?, after?_of_head? other some_, Option.bind_none]

theorem skipWord_of_head? (other : s.head? ≠ word.toList.head?) (some_ : word.toList ≠ []) :
    skipWord word s = s := by
  rw [skipWord, afterWord?_of_head? other some_, Option.getD_none]

/-! ## Words of a list -/

section Words

variable {w : String}

/-- Whether some words are not empty and have no blanks in them. -/
def areSolid (words : List String) : Bool :=
  words.all fun w => !w.toList.isEmpty && w.toList.all fun c => !isBlank c

theorem solid_of_mem {words : List String} (solid : areSolid words = true) (mem : w ∈ words) :
    w.toList ≠ [] ∧ ∀ c ∈ w.toList, isBlank c = false := by
  have word := List.all_eq_true.mp solid w mem
  simp only [Bool.and_eq_true, Bool.not_eq_true', List.isEmpty_eq_false_iff, List.all_eq_true]
    at word
  exact word

/-- The first word of a text, and what stands behind it. -/
theorem eq_of_afterWord? (solid : ∀ c ∈ w.toList, isBlank c = false) {t u : List Char}
    (found : afterWord? w t = some u) :
    (t.takeWhile fun c => !isBlank c) = w.toList ∧ (t.dropWhile fun c => !isBlank c) ≠ [] ∧
      u = trimStart (t.dropWhile fun c => !isBlank c) := by
  obtain ⟨flush, _, ⟨gap, ⟨some_, blank⟩, rfl⟩, rfl⟩ := afterWord?_eq_some_iff.mp found
  have inside : ∀ c ∈ w.toList, (!isBlank c) = true := by
    intro c mem
    rw [solid c mem]
    rfl
  have stop : ∀ c ∈ (gap ++ u).head?, (!isBlank c) = false := by
    intro c first
    rw [List.head?_append_of_ne_nil _ some_] at first
    rw [isAllBlank_iff.mp blank c (List.mem_of_mem_head? first)]
    rfl
  rw [List.append_assoc, takeWhile_append_of_stop inside stop, dropWhile_append_of_stop inside stop,
    trimStart_append blank, trimStart_of_flush flush]
  exact ⟨rfl, List.append_ne_nil_of_left_ne_nil some_ u, rfl⟩

theorem exists_afterWord? {t : List Char} (first : (t.takeWhile fun c => !isBlank c) = w.toList)
    (some_ : (t.dropWhile fun c => !isBlank c) ≠ []) : ∃ u, afterWord? w t = some u := by
  have pieces : (t.takeWhile fun c => !isBlank c) ++ (t.dropWhile fun c => !isBlank c) = t :=
    List.takeWhile_append_dropWhile
  have stop := stop_dropWhile (fun c => !isBlank c) t
  rw [first] at pieces
  generalize (t.dropWhile fun c => !isBlank c) = rest at pieces stop some_
  obtain ⟨gap, blank, rest_eq⟩ := exists_trimStart rest
  refine ⟨trimStart rest, afterWord?_eq_some_iff.mpr ⟨flush_trimStart rest, w.toList ++ gap,
    ⟨gap, ⟨?_, blank⟩, rfl⟩, by rw [List.append_assoc, ← rest_eq, pieces]⟩⟩
  rintro rfl
  obtain ⟨c, others, rfl⟩ := List.exists_cons_of_ne_nil some_
  have solid := flush_trimStart (c :: others) c (by rw [← List.nil_append (trimStart _), ← rest_eq]; rfl)
  have blank_c := stop c rfl
  rw [solid] at blank_c
  cases blank_c

/-- Which of some words is found depends on the first word of the text only. -/
theorem afterAnyWord?_eq_ite {words : List String} (solid : areSolid words = true) (t : List Char) :
    afterAnyWord? words t =
      if (∃ w ∈ words, (t.takeWhile fun c => !isBlank c) = w.toList) ∧
        (t.dropWhile fun c => !isBlank c) ≠ [] then
        some (trimStart (t.dropWhile fun c => !isBlank c))
      else none := by
  cases found : afterAnyWord? words t with
  | some u =>
    obtain ⟨w, mem, found⟩ := List.exists_of_findSome?_eq_some found
    obtain ⟨first, some_, u_eq⟩ := eq_of_afterWord? (solid_of_mem solid mem).2 found
    rw [if_pos ⟨⟨w, mem, first⟩, some_⟩, u_eq]
  | none =>
    rw [if_neg]
    rintro ⟨⟨w, mem, first⟩, some_⟩
    obtain ⟨u, found'⟩ := exists_afterWord? first some_
    rw [List.findSome?_eq_none_iff.mp found w mem] at found'
    cases found'

theorem all_starts {words : List String} (solid : areSolid words = true) :
    (words.all fun w => w.toList.head?.any fun c => !isBlank c) = true := by
  refine List.all_eq_true.mpr fun w mem => ?_
  obtain ⟨some_, free⟩ := solid_of_mem solid mem
  obtain ⟨c, rest, word_eq⟩ := List.exists_cons_of_ne_nil some_
  rw [word_eq] at free ⊢
  rw [List.head?_cons, Option.any_some, free c List.mem_cons_self]
  rfl

/-- A word that is found is the only one. -/
theorem afterAnyWord?_eq_none {words : List String} {t u : List Char}
    (solid : areSolid (w :: words) = true) (other : w ∉ words) (found : afterWord? w t = some u) :
    afterAnyWord? words t = none := by
  refine List.findSome?_eq_none_iff.mpr fun w' mem => ?_
  refine Option.eq_none_iff_forall_ne_some.mpr fun v found' => other ?_
  have word := (eq_of_afterWord? (solid_of_mem solid List.mem_cons_self).2 found).1
  have word' := (eq_of_afterWord? (solid_of_mem solid (List.mem_cons_of_mem w mem)).2 found').1
  rwa [String.toList_inj.mp (word.symm.trans word')]

end Words

/-! ## Names -/

/-- Whether a text is a name whose first character is of one class and whose other characters are of
another class. -/
def isName (first other : Char → Bool) (name : List Char) : Bool :=
  name.head?.any first && name.tail.all other

theorem isName_iff {first other : Char → Bool} :
    isName first other name = true ↔
      ∃ c rest, name = c :: rest ∧ first c = true ∧ ∀ d ∈ rest, other d = true := by
  cases name with
  | nil => simp [isName]
  | cons c rest => simp [isName]

/-- What holds of both classes holds of all characters of a name. -/
theorem forall_mem_of_isName {first other : Char → Bool} {motive : Char → Prop}
    (is : isName first other name = true) (start : ∀ c, first c = true → motive c)
    (later : ∀ c, other c = true → motive c) : ∀ c ∈ name, motive c := by
  obtain ⟨c, rest, rfl, first_, others⟩ := isName_iff.mp is
  exact List.forall_mem_cons.mpr ⟨start c first_, fun d mem => later d (others d mem)⟩

theorem ne_nil_of_isName {first other : Char → Bool} (is : isName first other name = true) :
    name ≠ [] := by
  obtain ⟨c, rest, rfl, -⟩ := isName_iff.mp is
  exact List.cons_ne_nil c rest

theorem name?_eq_some_iff {first other : Char → Bool} :
    name? first other s = some (name, t) ↔
      isName first other name = true ∧ (∀ c ∈ t.head?, other c = false) ∧ s = name ++ t := by
  constructor
  · intro found
    unfold name? at found
    split at found
    next => cases found
    next c rest =>
      split at found
      next start =>
        cases found
        refine ⟨isName_iff.mpr ⟨c, _, rfl, start, fun d mem => List.mem_takeWhile_imp mem⟩,
          stop_dropWhile other rest, ?_⟩
        rw [List.cons_append, List.takeWhile_append_dropWhile]
      next => cases found
  · rintro ⟨is, stop, rfl⟩
    obtain ⟨c, rest, rfl, start, others⟩ := isName_iff.mp is
    rw [List.cons_append, name?, if_pos start, takeWhile_append_of_stop others stop,
      dropWhile_append_of_stop others stop]

theorem isWord_of_isNameStart {c : Char} (start : isNameStart c = true) : isWord c = true := by
  have small : c.toNat < 128 := by
    simp only [isNameStart, isLetter, Bool.or_eq_true, Bool.and_eq_true, decide_eq_true_eq,
      beq_iff_eq, Char.le_def, UInt32.le_iff_toNat_le] at start
    rcases start with (⟨-, le⟩ | ⟨-, le⟩) | rfl
    · exact Nat.lt_of_le_of_lt le (by decide)
    · exact Nat.lt_of_le_of_lt le (by decide)
    · decide
  rw [isWord, if_pos small]
  rw [isNameStart, Bool.or_eq_true] at start
  rcases start with letter | score
  · rw [letter, Bool.true_or, Bool.true_or]
  · rw [score, Bool.or_true]

theorem isWord_of_plainName (is : isName isNameStart isWord name = true) :
    ∀ c ∈ name, isWord c = true :=
  forall_mem_of_isName is (fun _ => isWord_of_isNameStart) fun _ word => word

/-! ## Modifiers -/

/-- Leading modifiers, perhaps none, are made of their words and of blanks, and end in a blank. -/
theorem exists_of_mem_afterModifiers {words : List String} {fewer : List (List Char)}
    (mem : t ∈ afterModifiers words s fewer) :
    (∃ mods, s = mods ++ t ∧ (∀ c ∈ mods, isBlank c = true ∨ ∃ word ∈ words, c ∈ word.toList) ∧
      ∀ c ∈ mods.getLast?, isBlank c = true) ∨ t ∈ fewer := by
  fun_induction afterModifiers words s fewer with
  | case1 s fewer rest found ih =>
    obtain ⟨word, of_words, after⟩ := List.exists_of_findSome?_eq_some found
    obtain ⟨-, _, ⟨gap, ⟨some_, blanks⟩, rfl⟩, rfl⟩ := afterWord?_eq_some_iff.mp after
    rcases ih mem with ⟨mods, rfl, made, ends⟩ | before
    · refine .inl ⟨word.toList ++ (gap ++ mods), by simp only [List.append_assoc], ?_, ?_⟩
      · intro c inside
        rcases List.mem_append.mp inside with in_word | inside
        · exact .inr ⟨word, of_words, in_word⟩
        · rcases List.mem_append.mp inside with in_gap | inside
          · exact .inl (isAllBlank_iff.mp blanks c in_gap)
          · exact made c inside
      · intro c last
        -- The last character is one of the other modifiers, or else of the gap before them.
        rw [List.getLast?_append_of_ne_nil _ (List.append_ne_nil_of_left_ne_nil some_ mods)] at last
        by_cases none_ : mods = []
        · rw [none_, List.append_nil] at last
          exact isAllBlank_iff.mp blanks c (List.mem_of_getLast? last)
        · rw [List.getLast?_append_of_ne_nil _ none_] at last
          exact ends c last
    · rcases List.mem_cons.mp before with rfl | before
      · exact .inl ⟨[], rfl, nofun, nofun⟩
      · exact .inr before
  | case2 s fewer none_ =>
    rcases List.mem_cons.mp mem with rfl | before
    · exact .inl ⟨[], rfl, nofun, nofun⟩
    · exact .inr before

section Modifiers

variable {words : List String}

theorem afterModifiers_append (t : List Char) (fewer : List (List Char)) :
    afterModifiers words t fewer = afterModifiers words t [] ++ fewer := by
  induction length : t.length using Nat.strong_induction_on generalizing t fewer with
  | _ n ih =>
    rw [afterModifiers, afterModifiers]
    split
    next u found =>
      have shorter := length_lt_of_afterAnyWord? found
      rw [ih u.length (length ▸ shorter) u (t :: fewer) rfl, ih u.length (length ▸ shorter) u [t] rfl,
        List.append_assoc]
      rfl
    next => rfl

theorem afterModifiers_of_some {t u : List Char} (found : afterAnyWord? words t = some u) :
    afterModifiers words t [] = afterModifiers words u [] ++ [t] := by
  rw [afterModifiers]
  split
  next v found' =>
    cases found.symm.trans found'
    exact afterModifiers_append u [t]
  next none_ => cases found.symm.trans none_

/-- Where no modifier stands there is nothing to be skipped. -/
theorem afterModifiers_of_none {t : List Char} (none_ : afterAnyWord? words t = none)
    (fewer : List (List Char)) : afterModifiers words t fewer = t :: fewer := by
  rw [afterModifiers]
  split
  next u found => cases none_.symm.trans found
  next => rfl

theorem afterModifiers_ne_nil (t : List Char) : afterModifiers words t [] ≠ [] := by
  cases found : afterAnyWord? words t with
  | none => rw [afterModifiers_of_none found]; exact List.cons_ne_nil _ _
  | some u =>
    rw [afterModifiers_of_some found]
    exact List.append_ne_nil_of_right_ne_nil _ (List.cons_ne_nil _ _)

end Modifiers

/-! ## The first parenthesis -/

theorem takeWhile_parenthesis {front : List Char} (free : '(' ∉ front) (rest : List Char) :
    (front ++ '(' :: rest).takeWhile (· != '(') = front := by
  refine takeWhile_append_of_stop (fun c mem => ?_) ?_
  · rw [bne_iff_ne]
    rintro rfl
    exact free mem
  · rintro c ⟨⟩
    rfl

theorem parenthesis_not_mem {s : List Char} (blank : isAllBlank s = true) : '(' ∉ s := fun mem =>
  absurd (isAllBlank_iff.mp blank _ mem) (by decide)

theorem solid_of_isWord {c : Char} (word : isWord c = true) : isBlank c = false ∧ c ≠ '(' :=
  ⟨isBlank_of_isWord word, by rintro rfl; cases word⟩

end Scanner
end Header
end CodeGloss
