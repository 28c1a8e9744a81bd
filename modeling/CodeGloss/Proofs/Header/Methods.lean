import CodeGloss.Header.Recognition
import CodeGloss.Proofs.Header.Blank
import CodeGloss.Proofs.Header.Items
import CodeGloss.Proofs.Header.Matching
import CodeGloss.Proofs.Header.Name
import CodeGloss.Proofs.Header.Scripts

/-!
# Patterns of typed methods

A typed method has modifiers, a return type and a name before its parameter list.  Its pattern reads
the modifiers as often as it can, the type as short as it can, and sigils and a name behind blanks, so
there is much to go back over: a modifier may be a part of the type, and a word of the type may be the
name.  The scanner starts at the first parenthesis and goes backwards.  The two agree since nothing
of all this can contain a parenthesis.  Wherever the type is begun, what stands right before the first
parenthesis is the name, and there is only one way to tell it from the type (`splitHead?_append`).

* `fromType_eq`: whatever place the type is read from, the pattern finds the name before the first
  parenthesis and the text in front of it.
* `exists_afterModifiers_append`: the places behind modifiers stay the same without the name, as long
  as there is something left in front of it.
* `scanTyped_eq`: so the scanner finds what the pattern finds.
* `scan_eq_find?`: and this is true of all rules.
-/

namespace CodeGloss
namespace Header

open Scanner Text Pattern

variable {line : List Char} {s : Cursor} {name tail : List Char}

/-! ## What stands behind a return type -/

/-- Whether a text goes on with blanks, the sigils of a type, a name and a parenthesis, blanks before
it aside. -/
def IsTail (name tail : List Char) : Prop :=
  ∃ gap sigils gap' rest, tail = gap ++ (sigils ++ (name ++ (gap' ++ '(' :: rest))) ∧ IsGap gap ∧
    (∀ c ∈ sigils, isSigil c = true) ∧ isName isTypedStart isWord name = true ∧
    isAllBlank gap' = true

/-- What comes of a place behind a return type. -/
def behindType (line : List Char) (s : Cursor) : Option Capture :=
  gap.first line s fun s => (many (one isSigil)).first line s fun s =>
    (Pattern.name (word isTypedStart isWord)).first line s fun s => blanks.first line s fun s =>
      (char '(').first line s fun s => some s.capture

theorem isSigil_cases {c : Char} (sigil : isSigil c = true) : c = '*' ∨ c = '&' := by
  simpa [isSigil] using sigil

theorem isWord_of_isTypedStart_or {c : Char} (start : isTypedStart c = true) :
    isWord c = true ∨ c = '~' := by
  rw [isTypedStart, Bool.or_eq_true, beq_iff_eq] at start
  exact start.imp_left isWord_of_isNameStart

theorem isBlank_eq_false_of_isTypedStart {c : Char} (start : isTypedStart c = true) :
    isBlank c = false := by
  rcases isWord_of_isTypedStart_or start with word | rfl
  · exact isBlank_of_isWord word
  · rfl

theorem isSigil_eq_false_of_isTypedStart {c : Char} (start : isTypedStart c = true) :
    isSigil c = false := by
  refine Bool.eq_false_iff.mpr fun sigil => ?_
  rcases isSigil_cases sigil with rfl | rfl
  · cases start
  · cases start

theorem isBlank_eq_false_of_isSigil {c : Char} (sigil : isSigil c = true) : isBlank c = false := by
  rcases isSigil_cases sigil with rfl | rfl
  · rfl
  · rfl

theorem behindType_eq (s : Cursor) :
    behindType line s = (afterBlanks? s.rest).bind fun t =>
      (name? isTypedStart isWord (t.dropWhile isSigil)).bind fun found =>
        if (trimStart found.2).head? == some '(' then some { s.capture with name := found.1 }
        else none := by
  have start : ∀ {f : Char → Bool} {k : Cursor → Option Capture},
      (∀ c, isTypedStart c = true → f c = false) →
      Refuses (fun s => (Pattern.name (word isTypedStart isWord)).first line s k) f :=
    refuses_name_word
  rw [behindType, first_gap (refuses_many_one (fun _ => isBlank_eq_false_of_isSigil)
    (start fun _ => isBlank_eq_false_of_isTypedStart))]
  refine Option.bind_congr fun t _ => ?_
  rw [first_many_one (start fun _ => isSigil_eq_false_of_isTypedStart),
    first_name_word (refuses_blanks (fun _ => isWord_eq_false_of_isBlank) (refuses_char rfl))]
  refine Option.bind_congr fun found _ => ?_
  rw [first_blanks (refuses_char rfl), first_char]
  rfl

theorem behindType_eq_some_iff {capture : Capture} :
    behindType line s = some capture ↔
      ∃ name, IsTail name s.rest ∧ capture = { s.capture with name } := by
  rw [behindType_eq]
  constructor
  · intro found
    obtain ⟨t, blanks, found⟩ := Option.bind_eq_some_iff.mp found
    obtain ⟨⟨name, u⟩, named, found⟩ := Option.bind_eq_some_iff.mp found
    obtain ⟨-, gap, is_gap, rest_eq⟩ := afterBlanks?_eq_some_iff.mp blanks
    obtain ⟨is_name, -, drop_eq⟩ := name?_eq_some_iff.mp named
    obtain ⟨gap', blank', u_eq⟩ := exists_trimStart u
    dsimp only at found
    split at found
    next opens =>
      cases found
      obtain ⟨rest, start⟩ := List.head?_eq_some_iff.mp (beq_iff_eq.mp opens)
      refine ⟨name, ⟨gap, t.takeWhile isSigil, gap', rest, ?_, is_gap,
        fun _ => List.mem_takeWhile_imp, is_name, blank'⟩, rfl⟩
      rw [rest_eq, ← start, ← u_eq, ← drop_eq, List.takeWhile_append_dropWhile]
    next => cases found
  · rintro ⟨name, ⟨gap, sigils, gap', rest, rest_eq, is_gap, are_sigils, is_name, blank'⟩, rfl⟩
    obtain ⟨c, others, rfl, start, -⟩ := isName_iff.mp is_name
    have flush : Flush (sigils ++ (c :: others ++ (gap' ++ '(' :: rest))) := by
      intro d first
      cases sigils with
      | nil => cases first; exact isBlank_eq_false_of_isTypedStart start
      | cons e sigils =>
        cases first
        exact isBlank_eq_false_of_isSigil (are_sigils d List.mem_cons_self)
    have stop : ∀ d ∈ (c :: others ++ (gap' ++ '(' :: rest)).head?, isSigil d = false := by
      rintro d ⟨⟩
      exact isSigil_eq_false_of_isTypedStart start
    have stop' : ∀ d ∈ (gap' ++ '(' :: rest).head?, isWord d = false := by
      intro d first
      cases gap' with
      | nil => cases first; rfl
      | cons e gap' =>
        cases first
        exact isWord_eq_false_of_isBlank (isAllBlank_iff.mp blank' d List.mem_cons_self)
    have round : trimStart (gap' ++ '(' :: rest) = '(' :: rest := by
      rw [trimStart_append blank']
      exact trimStart_of_flush (by rintro d ⟨⟩; rfl)
    rw [afterBlanks?_eq_some_iff.mpr ⟨flush, gap, is_gap, rest_eq⟩, Option.bind_some,
      dropWhile_append_of_stop are_sigils stop, name?_eq_some_iff.mpr ⟨is_name, stop', rfl⟩,
      Option.bind_some, round]
    rfl

/-! ## From the parenthesis backwards -/

/-- The name right before the first parenthesis of a text, and what stands before it, the sigils of a
type and blanks, if there are any of these. -/
def splitHead? (s : List Char) : Option (List Char × List Char) :=
  if !s.contains '(' then none
  else
    (lastName? (trimEnd (s.takeWhile (· != '(')))).bind fun found =>
      (beforeName? found.2).map fun before => (found.1, before)

theorem scanTyped_eq_bind (line : Line) :
    scanTyped line = (splitHead? line).bind fun found =>
      ((afterModifiers typedModifiers (trimStart found.2) []).find? isReturnType).map fun returns =>
        ⟨found.1, returns⟩ := by
  rw [scanTyped, splitHead?]
  split
  · rfl
  · cases lastName? (trimEnd (line.takeWhile (· != '('))) with
    | none => rfl
    | some found =>
      cases before : beforeName? found.2 with
      | none => simp only [Option.bind_eq_bind, Option.bind_some, before]; rfl
      | some before' =>
        simp only [Option.bind_eq_bind, Option.bind_some, before, Option.map_some]
        cases (afterModifiers typedModifiers (trimStart before') []).find? isReturnType with
        | none => rfl
        | some returns => rfl

theorem isName_of_lastName? {t before : List Char} (found : lastName? t = some (name, before)) :
    isName isTypedStart isWord name = true := by
  have words : ∀ c ∈ (t.reverse.takeWhile isWord).reverse, isWord c = true := fun c mem =>
    List.mem_takeWhile_imp (List.mem_reverse.mp mem)
  simp only [lastName?] at found
  split at found
  next =>
    cases found
    exact isName_iff.mpr ⟨'~', _, rfl, rfl, words⟩
  next =>
    split at found
    next start =>
      cases found
      cases name_eq : (t.reverse.takeWhile isWord).reverse with
      | nil =>
        rw [name_eq] at start
        cases start
      | cons c rest =>
        rw [name_eq] at start words
        refine isName_iff.mpr ⟨c, rest, rfl, ?_, (List.forall_mem_cons.mp words).2⟩
        rw [isTypedStart, show isNameStart c = true from start, Bool.true_or]
    next => cases found

theorem solid_of_typedName (is : isName isTypedStart isWord name = true) :
    ∀ c ∈ name, isBlank c = false ∧ c ≠ '(' := by
  refine forall_mem_of_isName is (fun c start => ?_) fun _ => solid_of_isWord
  rw [isTypedStart, Bool.or_eq_true] at start
  rcases start with start | tilde
  · exact solid_of_isWord (isWord_of_isNameStart start)
  · rw [beq_iff_eq.mp tilde]
    decide

theorem lastName?_append {before : List Char} (is : isName isTypedStart isWord name = true)
    (stop : ∀ c ∈ before.getLast?, isWord c = false ∧ c ≠ '~') :
    lastName? (before ++ name) = some (name, before) := by
  obtain ⟨c, others, rfl, start, words⟩ := isName_iff.mp is
  have words' : ∀ d ∈ others.reverse, isWord d = true :=
    fun d mem => words d (List.mem_reverse.mp mem)
  by_cases tilde : c = '~'
  · subst tilde
    have backwards : (before ++ '~' :: others).reverse = others.reverse ++ '~' :: before.reverse := by
      simp only [List.reverse_append, List.reverse_cons, List.append_assoc, List.singleton_append]
    have stop' : ∀ d ∈ ('~' :: before.reverse).head?, isWord d = false := by
      rintro d ⟨⟩
      rfl
    simp only [lastName?, backwards, takeWhile_append_of_stop words' stop',
      dropWhile_append_of_stop words' stop', List.reverse_reverse]
  · have word := (isWord_of_isTypedStart_or start).resolve_right tilde
    have backwards : (before ++ c :: others).reverse = (c :: others).reverse ++ before.reverse :=
      List.reverse_append
    have words'' : ∀ d ∈ (c :: others).reverse, isWord d = true := by
      intro d mem
      rcases List.mem_cons.mp (List.mem_reverse.mp mem) with rfl | mem
      · exact word
      · exact words d mem
    have stop' : ∀ d ∈ before.reverse.head?, isWord d = false := by
      intro d first
      rw [List.head?_reverse] at first
      exact (stop d first).1
    have named : isNameStart c = true := by
      rw [isTypedStart, Bool.or_eq_true, beq_iff_eq] at start
      exact start.resolve_right tilde
    simp only [lastName?, backwards, takeWhile_append_of_stop words'' stop',
      dropWhile_append_of_stop words'' stop', List.reverse_reverse]
    split
    next rest reversed =>
      have last := congrArg List.head? reversed
      rw [List.head?_reverse] at last
      exact absurd rfl (stop '~' last).2
    next => rw [List.head?_cons, Option.any_some, named, if_pos rfl, List.reverse_reverse]

theorem beforeName?_append {before gap sigils : List Char} (is_gap : IsGap gap)
    (are_sigils : ∀ c ∈ sigils, isSigil c = true)
    (ends : ∀ c ∈ before.getLast?, isBlank c = false) :
    beforeName? (before ++ (gap ++ sigils)) = some before := by
  obtain ⟨some_, blank⟩ := is_gap
  have backwards : (before ++ (gap ++ sigils)).reverse =
      sigils.reverse ++ (gap.reverse ++ before.reverse) := by
    simp only [List.reverse_append, List.append_assoc]
  have blanks : ∀ c ∈ gap.reverse, isBlank c = true := fun c mem =>
    isAllBlank_iff.mp blank c (List.mem_reverse.mp mem)
  have first_blank : ∀ c ∈ (gap.reverse ++ before.reverse).head?, isBlank c = true := by
    intro c first
    rw [List.head?_append_of_ne_nil _ (List.reverse_ne_nil_iff.mpr some_)] at first
    exact blanks c (List.mem_of_mem_head? first)
  have stop : ∀ c ∈ (gap.reverse ++ before.reverse).head?, isSigil c = false := by
    intro c first
    refine Bool.eq_false_iff.mpr fun sigil => ?_
    have blank := first_blank c first
    rw [isBlank_eq_false_of_isSigil sigil] at blank
    cases blank
  have stop' : ∀ c ∈ before.reverse.head?, isBlank c = false := by
    intro c first
    rw [List.head?_reverse] at first
    exact ends c first
  have opens : (gap.reverse ++ before.reverse).head?.any isBlank = true := by
    obtain ⟨c, rest, reversed⟩ := List.exists_cons_of_ne_nil (List.reverse_ne_nil_iff.mpr some_)
    rw [reversed] at first_blank ⊢
    exact first_blank c rfl
  simp only [beforeName?, backwards,
    dropWhile_append_of_stop (fun c mem => are_sigils c (List.mem_reverse.mp mem)) stop, opens,
    if_true, dropWhile_append_of_stop blanks stop', List.reverse_reverse]

/-- What is left of a text in front of a name has no blanks at its end. -/
theorem exists_of_beforeName? {s before : List Char} (found : beforeName? s = some before) :
    ∃ gap sigils, s = before ++ (gap ++ sigils) ∧ IsGap gap ∧ (∀ c ∈ sigils, isSigil c = true) ∧
      ∀ c ∈ before.getLast?, isBlank c = false := by
  simp only [beforeName?] at found
  split at found
  next opens =>
    have before_eq : (trimStart (s.reverse.dropWhile isSigil)).reverse = before :=
      Option.some_inj.mp found
    have sigils := (List.takeWhile_append_dropWhile (p := isSigil) (l := s.reverse)).symm
    have inside : ∀ c ∈ s.reverse.takeWhile isSigil, isSigil c = true :=
      fun _ => List.mem_takeWhile_imp
    generalize s.reverse.takeWhile isSigil = backwards at sigils inside
    generalize s.reverse.dropWhile isSigil = t at sigils opens before_eq
    obtain ⟨gap, blank, t_eq⟩ := exists_trimStart t
    have flush := flush_trimStart t
    generalize trimStart t = u at t_eq flush before_eq
    subst t_eq before_eq
    refine ⟨gap.reverse, backwards.reverse, ?_, ⟨?_, ?_⟩, ?_, ?_⟩
    · rw [← List.reverse_reverse s, sigils]
      simp only [List.reverse_append, List.append_assoc]
    · intro none_
      rw [List.reverse_eq_nil_iff.mp none_, List.nil_append] at opens
      cases u with
      | nil => cases opens
      | cons c u =>
        rw [List.head?_cons, Option.any_some, flush c rfl] at opens
        cases opens
    · exact isAllBlank_iff.mpr fun c mem => isAllBlank_iff.mp blank c (List.mem_reverse.mp mem)
    · exact fun c mem => inside c (List.mem_reverse.mp mem)
    · intro c last
      rw [List.getLast?_reverse] at last
      exact flush c last
  next => cases found

theorem splitHead?_append {front : List Char} (free : '(' ∉ front) (is : IsTail name tail) :
    splitHead? (front ++ tail) = some (name, trimEnd front) := by
  obtain ⟨gap, sigils, gap', rest, rfl, is_gap, are_sigils, is_name, blank'⟩ := is
  obtain ⟨blanks, blank, front_eq⟩ := exists_trimEnd front
  have free' : '(' ∉ front ++ (gap ++ (sigils ++ (name ++ gap'))) := by
    simp only [List.mem_append, not_or]
    refine ⟨free, parenthesis_not_mem is_gap.2, fun mem => ?_,
      fun mem => (solid_of_typedName is_name _ mem).2 rfl, parenthesis_not_mem blank'⟩
    cases are_sigils _ mem
  have whole : front ++ (gap ++ (sigils ++ (name ++ (gap' ++ '(' :: rest)))) =
      (front ++ (gap ++ (sigils ++ (name ++ gap')))) ++ '(' :: rest := by
    simp only [List.append_assoc]
  have opens : (!(front ++ (gap ++ (sigils ++ (name ++ (gap' ++ '(' :: rest))))).contains '(') =
      false := by simp
  have gap_blank : isAllBlank (blanks ++ gap) = true := isAllBlank_append blank is_gap.2
  have is_gap' : IsGap (blanks ++ gap) := ⟨List.append_ne_nil_of_right_ne_nil _ is_gap.1, gap_blank⟩
  have head : front ++ (gap ++ (sigils ++ (name ++ gap'))) =
      ((trimEnd front ++ ((blanks ++ gap) ++ sigils)) ++ name) ++ gap' := by
    conv_lhs => rw [front_eq]
    simp only [List.append_assoc]
  have last : ∀ c ∈ ((trimEnd front ++ ((blanks ++ gap) ++ sigils)) ++ name).getLast?,
      isBlank c = false := by
    intro c last
    rw [List.getLast?_append_of_ne_nil _ (ne_nil_of_isName is_name)] at last
    exact (solid_of_typedName is_name c (List.mem_of_getLast? last)).1
  have stop : ∀ c ∈ (trimEnd front ++ ((blanks ++ gap) ++ sigils)).getLast?,
      isWord c = false ∧ c ≠ '~' := by
    intro c last
    rw [List.getLast?_append_of_ne_nil _ (List.append_ne_nil_of_left_ne_nil is_gap'.1 _)] at last
    rcases List.mem_append.mp (List.mem_of_getLast? last) with mem | mem
    · have blank := isAllBlank_iff.mp gap_blank c mem
      refine ⟨isWord_eq_false_of_isBlank blank, ?_⟩
      rintro rfl
      cases blank
    · rcases isSigil_cases (are_sigils c mem) with rfl | rfl <;> exact ⟨rfl, by decide⟩
  rw [splitHead?, opens, if_neg Bool.false_ne_true, whole, takeWhile_parenthesis free', head,
    trimEnd_append last blank', lastName?_append is_name stop, Option.bind_some,
    beforeName?_append is_gap' are_sigils (ends_trimEnd front)]
  rfl

theorem exists_of_splitHead? {s before : List Char} (found : splitHead? s = some (name, before)) :
    ∃ tail, s = before ++ tail ∧ IsTail name tail ∧ '(' ∉ before ∧
      ∀ c ∈ before.getLast?, isBlank c = false := by
  unfold splitHead? at found
  split at found
  next => cases found
  next opens =>
    obtain ⟨⟨name', t⟩, named, found⟩ := Option.bind_eq_some_iff.mp found
    obtain ⟨before', before_eq, found⟩ := Option.map_eq_some_iff.mp found
    obtain ⟨rfl, rfl⟩ := Prod.mk.inj found
    dsimp only at before_eq
    have mem : '(' ∈ s := by simpa using opens
    obtain ⟨front, rest, rfl, free⟩ := List.eq_append_cons_of_mem mem
    rw [takeWhile_parenthesis free] at named
    obtain ⟨gap', blank', front_eq⟩ := exists_trimEnd front
    obtain ⟨gap, sigils, t_eq, is_gap, are_sigils, ends⟩ := exists_of_beforeName? before_eq
    have whole : front = before' ++ (gap ++ (sigils ++ (name' ++ gap'))) := by
      rw [front_eq, ← append_of_lastName? named, t_eq]
      simp only [List.append_assoc]
    refine ⟨gap ++ (sigils ++ (name' ++ (gap' ++ '(' :: rest))), ?_,
      ⟨gap, sigils, gap', rest, rfl, is_gap, are_sigils, isName_of_lastName? named, blank'⟩,
      fun mem => free (whole ▸ List.mem_append_left _ mem), ends⟩
    rw [whole]
    simp only [List.append_assoc]

/-! ## The shortest return type -/

/-- What comes of a place where a return type may start. -/
def fromType (line : List Char) (s : Cursor) : Option Capture :=
  (Pattern.returns (seq (one isNameStart) (few (one isTypeChar)))).first line s (behindType line)

theorem isReturnType_iff {t : List Char} :
    isReturnType t = true ↔
      ∃ c rest, t = c :: rest ∧ isNameStart c = true ∧ ∀ d ∈ rest, isTypeChar d = true := by
  rw [isReturnType, Bool.and_eq_true, List.all_eq_true]
  constructor
  · rintro ⟨start, chars⟩
    cases t with
    | nil => cases start
    | cons c rest => exact ⟨c, rest, rfl, start, (List.forall_mem_cons.mp chars).2⟩
  · rintro ⟨c, rest, rfl, start, chars⟩
    refine ⟨start, List.forall_mem_cons.mpr ⟨?_, chars⟩⟩
    rw [isTypeChar, isWord_of_isNameStart start, Bool.true_or, Bool.true_or]

theorem parenthesis_not_mem_of_isReturnType {t : List Char} (is : isReturnType t = true) :
    '(' ∉ t := by
  intro mem
  rw [isReturnType, Bool.and_eq_true] at is
  cases List.all_eq_true.mp is.2 _ mem

theorem exists_of_fromType {r : List Char} {capture : Capture}
    (found : fromType line { rest := r } = some capture) :
    ∃ returns tail name, r = returns ++ tail ∧ isReturnType returns = true ∧ IsTail name tail := by
  rw [fromType, first_returns, first_seq] at found
  cases r with
  | nil => rw [first_one_nil rfl] at found; cases found
  | cons c r =>
    rw [first_one_cons rfl] at found
    split at found
    next start =>
      obtain ⟨front, t, whole, inside, leads⟩ := exists_of_first_few_one found
      obtain ⟨name, is, -⟩ := behindType_eq_some_iff.mp leads
      refine ⟨c :: front, t, name, congrArg (c :: ·) whole, ?_, is⟩
      exact isReturnType_iff.mpr ⟨c, front, rfl, start, inside⟩
    next => cases found

theorem isReturnType_trimEnd {t : List Char} (is : isReturnType t = true) :
    isReturnType (trimEnd t) = true := by
  obtain ⟨c, rest, rfl, start, chars⟩ := isReturnType_iff.mp is
  obtain ⟨gap, blank, whole⟩ := exists_trimEnd (c :: rest)
  generalize trimEnd (c :: rest) = u at whole
  cases u with
  | nil =>
    rw [List.nil_append] at whole
    have blank_c := isAllBlank_iff.mp blank c (whole ▸ List.mem_cons_self)
    rw [isBlank_eq_false_of_isNameStart start] at blank_c
    cases blank_c
  | cons d u =>
    obtain ⟨rfl, rfl⟩ := List.cons.inj whole
    exact isReturnType_iff.mpr ⟨c, u, rfl, start, fun d mem => chars d (List.mem_append_left _ mem)⟩

/-- Only blanks may be put between a text and the blanks, the sigils and the name in front of its first
parenthesis. -/
theorem eq_nil_of_isTail_append {u : List Char} {name' : List Char} (free : '(' ∉ u)
    (is : IsTail name tail) (is' : IsTail name' (u ++ tail))
    (ends : ∀ c ∈ u.getLast?, isBlank c = false) : u = [] := by
  have bare : splitHead? ([] ++ (u ++ tail)) = some (name', trimEnd []) :=
    splitHead?_append List.not_mem_nil is'
  rw [List.nil_append, splitHead?_append free is] at bare
  obtain ⟨-, none_⟩ := Prod.mk.inj (Option.some_inj.mp bare)
  exact eq_nil_of_isAllBlank ends (isAllBlank_of_trimEnd none_)

/-- A return type is found right before the blanks, the sigils and the name in front of the first
parenthesis, or not at all. -/
theorem fromType_eq (r : List Char) :
    fromType line { rest := r } = (splitHead? r).bind fun found =>
      if isReturnType found.2 then some ⟨found.1, found.2⟩ else none := by
  cases split_ : splitHead? r with
  | none =>
    refine Option.eq_none_iff_forall_ne_some.mpr fun capture found => ?_
    obtain ⟨returns, tail, name, rfl, is, is_tail⟩ := exists_of_fromType found
    rw [splitHead?_append (parenthesis_not_mem_of_isReturnType is) is_tail] at split_
    cases split_
  | some found =>
    obtain ⟨name, before⟩ := found
    obtain ⟨tail, rfl, is_tail, free, ends⟩ := exists_of_splitHead? split_
    rw [Option.bind_some]
    dsimp only
    split
    next is =>
      obtain ⟨c, rest, rfl, start, inside⟩ := isReturnType_iff.mp is
      rw [fromType, first_returns, first_seq, List.cons_append, first_one_cons rfl, if_pos start]
      refine first_few_one_of_shortest rfl inside ?_ fun u suffix some_ => ?_
      · refine behindType_eq_some_iff.mpr ⟨name, is_tail, ?_⟩
        have whole : c :: (rest ++ tail) = (c :: rest) ++ tail := rfl
        exact congrArg (Capture.mk name) (between_leaving (s := { rest := _ }) whole).symm
      · refine Option.eq_none_iff_forall_ne_some.mpr fun capture found => some_ ?_
        obtain ⟨name', is_tail', -⟩ := behindType_eq_some_iff.mp found
        refine eq_nil_of_isTail_append (fun mem => free (List.mem_cons_of_mem c (suffix.mem mem)))
          is_tail is_tail' fun d last => ends d ?_
        obtain ⟨y, rfl⟩ := suffix
        rw [← List.cons_append, List.getLast?_append_of_ne_nil _ some_]
        exact last
    next isnt =>
      refine Option.eq_none_iff_forall_ne_some.mpr fun capture found => isnt ?_
      obtain ⟨returns, tail', name', whole, is, is_tail'⟩ := exists_of_fromType found
      have split' := splitHead?_append (parenthesis_not_mem_of_isReturnType is) is_tail'
      rw [← whole, split_] at split'
      cases split'
      exact isReturnType_trimEnd is

/-! ## Modifiers before a return type -/

/-- A name is found as well with more text in front. -/
theorem splitHead?_of_append {front r before : List Char} (free : '(' ∉ front)
    (found : splitHead? r = some (name, before)) :
    splitHead? (front ++ r) = some (name, trimEnd (front ++ before)) := by
  obtain ⟨tail, rfl, is, free', -⟩ := exists_of_splitHead? found
  rw [← List.append_assoc]
  refine splitHead?_append (fun mem => ?_) is
  rcases List.mem_append.mp mem with mem | mem
  · exact free mem
  · exact free' mem

theorem splitHead?_of_mem_afterModifiers {t r : List Char} (none_ : splitHead? t = none)
    (mem : r ∈ afterModifiers typedModifiers t []) : splitHead? r = none := by
  obtain ⟨mods, rfl, made, -⟩ := (exists_of_mem_afterModifiers mem).resolve_right List.not_mem_nil
  have free : '(' ∉ mods := by
    intro inside
    rcases made _ inside with blank | ⟨word, of_words, inside⟩
    · cases blank
    · have free : ∀ word ∈ typedModifiers, '(' ∉ word.toList := by decide
      exact free word of_words inside
  refine Option.eq_none_iff_forall_ne_some.mpr fun found split_ => ?_
  rw [splitHead?_of_append free split_] at none_
  cases none_

/-- There is no type between the blanks in front of a name and the name. -/
theorem splitHead?_trimStart_of_isTail (is : IsTail name tail) :
    splitHead? (trimStart tail) = none := by
  refine Option.eq_none_iff_forall_ne_some.mpr fun ⟨name', before⟩ found => ?_
  obtain ⟨gap, blank, tail_eq⟩ := exists_trimStart tail
  obtain ⟨tail', start, is', free, ends⟩ := exists_of_splitHead? found
  have flush := flush_trimStart tail
  have whole : (gap ++ before) ++ tail' = tail := by rw [List.append_assoc, ← start, ← tail_eq]
  have bare : splitHead? ([] ++ tail) = some (name, trimEnd []) :=
    splitHead?_append List.not_mem_nil is
  have free' : '(' ∉ gap ++ before := by
    rw [List.mem_append, not_or]
    exact ⟨parenthesis_not_mem blank, free⟩
  rw [List.nil_append, ← whole, splitHead?_append free' is'] at bare
  obtain ⟨-, none_⟩ := Prod.mk.inj (Option.some_inj.mp bare)
  have all_blank : isAllBlank before = true := isAllBlank_iff.mpr fun c mem =>
    isAllBlank_iff.mp (isAllBlank_of_trimEnd none_) c (List.mem_append_right gap mem)
  -- Then the name would come right after blanks that were taken off.
  obtain ⟨gap', sigils, gap'', rest, rfl, ⟨some_, blank'⟩, -⟩ := is'
  obtain ⟨c, gap', rfl⟩ := List.exists_cons_of_ne_nil some_
  rw [start, eq_nil_of_isAllBlank ends all_blank] at flush
  have solid := flush c rfl
  rw [isAllBlank_iff.mp blank' c List.mem_cons_self] at solid
  cases solid

/-- The first word of a text is not longer if blanks and more follow. -/
theorem firstWord_append {t : List Char} (is : IsTail name tail) :
    ((t ++ tail).takeWhile fun c => !isBlank c) = (t.takeWhile fun c => !isBlank c) ∧
      ((t ++ tail).dropWhile fun c => !isBlank c) = (t.dropWhile fun c => !isBlank c) ++ tail := by
  obtain ⟨gap, sigils, gap', rest, rfl, ⟨some_, blank⟩, -⟩ := is
  obtain ⟨d, gap, rfl⟩ := List.exists_cons_of_ne_nil some_
  have blank_d := isAllBlank_iff.mp blank d List.mem_cons_self
  induction t with
  | nil =>
    simp only [List.nil_append, List.cons_append, List.takeWhile_cons, List.dropWhile_cons, blank_d,
      Bool.not_true, Bool.false_eq_true, if_false, List.takeWhile_nil, List.dropWhile_nil, and_self]
  | cons c t ih =>
    rw [List.cons_append, List.takeWhile_cons, List.dropWhile_cons, List.takeWhile_cons,
      List.dropWhile_cons]
    split
    · exact ⟨congrArg _ ih.1, ih.2⟩
    · exact ⟨rfl, rfl⟩

/-- A name behind blanks does not matter for the modifiers in front of it, except that the last word
could be taken for a modifier as well. -/
theorem exists_afterModifiers_append {before : List Char} (is : IsTail name tail)
    (ends : ∀ c ∈ before.getLast?, isBlank c = false) :
    ∃ deeper, afterModifiers typedModifiers (before ++ tail) [] =
        deeper ++ (afterModifiers typedModifiers before []).map (· ++ tail) ∧
      ∀ r ∈ deeper, splitHead? r = none := by
  induction length : before.length using Nat.strong_induction_on generalizing before with
  | _ n ih =>
    obtain ⟨first_eq, behind_eq⟩ := firstWord_append (t := before) is
    have solid : areSolid typedModifiers = true := rfl
    have found := afterAnyWord?_eq_ite solid before
    have found' := afterAnyWord?_eq_ite solid (before ++ tail)
    rw [first_eq, behind_eq] at found'
    have suffix : (before.dropWhile fun c => !isBlank c) <:+ before := List.dropWhile_suffix _
    generalize (before.dropWhile fun c => !isBlank c) = behind at found found' suffix
    by_cases last_word : behind = []
    · subst last_word
      rw [if_neg fun both => both.2 rfl] at found
      rw [afterModifiers_of_none found]
      split at found'
      next =>
        rw [afterModifiers_of_some found']
        exact ⟨_, rfl, fun r mem =>
          splitHead?_of_mem_afterModifiers (splitHead?_trimStart_of_isTail is) mem⟩
      next => exact ⟨[], by rw [afterModifiers_of_none found']; rfl, nofun⟩
    · have ends' : ∀ c ∈ behind.getLast?, isBlank c = false := ends_of_suffix ends suffix
      have some_ : trimStart behind ≠ [] := fun none_ => last_word (eq_nil_of_trimStart ends' none_)
      rw [trimStart_append_of_ne_nil some_] at found'
      by_cases modifier : ∃ w ∈ typedModifiers, (before.takeWhile fun c => !isBlank c) = w.toList
      · rw [if_pos ⟨modifier, last_word⟩] at found
        rw [if_pos ⟨modifier, List.append_ne_nil_of_left_ne_nil last_word tail⟩] at found'
        have shorter := length_lt_of_afterAnyWord? found
        obtain ⟨deeper, rest_eq, none_⟩ := ih (trimStart behind).length (length ▸ shorter)
          (ends_of_suffix ends' (trimStart_suffix behind)) rfl
        refine ⟨deeper, ?_, none_⟩
        rw [afterModifiers_of_some found, afterModifiers_of_some found', rest_eq, List.map_append,
          List.append_assoc]
        rfl
      · rw [if_neg fun both => modifier both.1] at found found'
        rw [afterModifiers_of_none found, afterModifiers_of_none found']
        exact ⟨[], rfl, nofun⟩

theorem findSome?_ite {α : Type} (p : List Char → Bool) (f : List Char → α) (l : List (List Char)) :
    (l.findSome? fun a => if p a then some (f a) else none) = (l.find? p).map f := by
  induction l with
  | nil => rfl
  | cons a l ih =>
    rw [List.findSome?_cons, List.find?_cons]
    cases p a with
    | true => rfl
    | false => exact ih

/-- The places behind modifiers where the text goes on with a type and a name are those where the text
up to the name goes on with a type. -/
theorem findSome?_afterModifiers (line : Line) :
    ((afterModifiers typedModifiers (trimStart line) []).findSome? fun t =>
        (splitHead? t).bind fun found =>
          if isReturnType found.2 then some (⟨found.1, found.2⟩ : Capture) else none) =
      (splitHead? line).bind fun found =>
        ((afterModifiers typedModifiers (trimStart found.2) []).find? isReturnType).map fun returns =>
          ⟨found.1, returns⟩ := by
  have none_of : ∀ {t : List Char}, splitHead? t = none →
      ((afterModifiers typedModifiers t []).findSome? fun t => (splitHead? t).bind fun found =>
        if isReturnType found.2 then some (⟨found.1, found.2⟩ : Capture) else none) = none := by
    intro t none_
    refine List.findSome?_eq_none_iff.mpr fun r mem => ?_
    rw [splitHead?_of_mem_afterModifiers none_ mem, Option.bind_none]
  cases split_ : splitHead? line with
  | none =>
    refine none_of (Option.eq_none_iff_forall_ne_some.mpr fun found split' => ?_)
    obtain ⟨gap, blank, line_eq⟩ := exists_trimStart line
    have whole := splitHead?_of_append (parenthesis_not_mem blank) split'
    rw [← line_eq, split_] at whole
    cases whole
  | some found =>
    obtain ⟨name, before⟩ := found
    obtain ⟨tail, rfl, is, free, ends⟩ := exists_of_splitHead? split_
    rw [Option.bind_some]
    by_cases some_ : trimStart before = []
    · -- There is nothing in front of the name that a type could be.
      rw [eq_nil_of_trimStart ends some_, List.nil_append,
        none_of (splitHead?_trimStart_of_isTail is),
        afterModifiers_of_none (t := trimStart []) (afterAnyWord?_nil _)]
      rfl
    · have ends' := ends_of_suffix ends (trimStart_suffix before)
      obtain ⟨deeper, whole, none_⟩ := exists_afterModifiers_append is ends'
      have deeper_none : (deeper.findSome? fun t => (splitHead? t).bind fun found =>
          if isReturnType found.2 then some (⟨found.1, found.2⟩ : Capture) else none) = none := by
        refine List.findSome?_eq_none_iff.mpr fun r mem => ?_
        rw [none_ r mem, Option.bind_none]
      rw [trimStart_append_of_ne_nil some_, whole, List.findSome?_append, deeper_none,
        Option.none_or, List.findSome?_map, ← findSome?_ite]
      refine findSome?_congr fun t mem => ?_
      have suffix : t <:+ before := (suffix_of_mem_modifiers mem).trans (trimStart_suffix before)
      have free' : '(' ∉ t := fun mem => free (suffix.mem mem)
      have last := trimEnd_append (ends_of_suffix ends suffix) (t := []) rfl
      rw [List.append_nil] at last
      rw [Function.comp_apply, splitHead?_append free' is, last]
      rfl

/-- Typed methods are found where their pattern is. -/
theorem scanTyped_eq (line : Line) : scanTyped line = typedMethod.pattern.find? line := by
  have whole : typedMethod.pattern.find? line =
      blanks.first line { rest := line } fun s =>
        (many (anyApart typedModifiers)).first line s (fromType line) := by
    simp only [find?_eq_first, typedMethod, all, List.foldr_cons, List.foldr_nil, first_seq,
      first_nothing]
    rfl
  have refuses : Refuses (fromType line) isBlank := by
    intro s c first blank
    rw [fromType, first_returns, first_seq]
    exact refuses_one (fun _ => isBlank_eq_false_of_isNameStart) s c first blank
  rw [whole, first_blanks (refuses_modifiers rfl refuses), first_modifiers rfl refuses,
    scanTyped_eq_bind, ← findSome?_afterModifiers]
  exact congrArg (List.findSome? · _) (funext fun t => (fromType_eq t).symm)

/-! ## Every rule -/

/-- **Every scanner finds what the pattern of its rule finds.** -/
theorem scan_eq_find? {rule : Rule} (mem : rule ∈ rules) (line : Line) :
    rule.scan line = rule.pattern.find? line := by
  simp only [rules, List.mem_cons, List.not_mem_nil, or_false] at mem
  rcases mem with rfl | rfl | rfl | rfl | rfl | rfl | rfl | rfl | rfl | rfl | rfl
  · exact scanDef_eq line
  · exact scanIndentedClass_eq line
  · exact scanFunction_eq line
  · exact scanClass_eq line
  · exact scanBinding_eq line
  · exact scanFn_eq line
  · exact scanType_eq line
  · exact scanImpl_eq line
  · exact scanFunc_eq line
  · exact scanTyped_eq line
  · exact scanMethod_eq line

end Header
end CodeGloss
