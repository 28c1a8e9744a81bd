import CodeGloss.Proofs.Header.Methods

/-!
# Names of callables

Three rules read a header up to a parameter list: that of functions marked by indentation, that of
typed methods and that of methods of scripts.  Their patterns may read a line in several ways, with
modifiers that may be names and types that may be modifiers.  The scanners read it in one way, from the
front or from the parenthesis backwards, and they find what the patterns find
(`Header.scan_eq_find?`).  In all three cases it is the word that stands right before the first
parenthesis of the line, blanks apart, and that is set off from what comes before it
(`Header.NamesParameters`).  So there is only one name for a line, however its modifiers and its types
are told apart.

Of a function marked by indentation it is also said which lines there are
(`Header.pythonDef_header?_eq_some_iff`).
-/

namespace CodeGloss

namespace Header

open Scanner Text

/-! ## The word before a parameter list -/

/-- Whether a word may start after `before`: nothing stands there, or something that ends in a blank, a
star or an ampersand. -/
def SetsOff (before : List Char) : Prop :=
  ∀ c ∈ before.getLast?, isBlank c = true ∨ c = '*' ∨ c = '&'

/-- Whether a line has a parenthesis, and `name` is what stands before the first one, without the
blanks in between and set off from what comes before it. -/
def NamesParameters (line : Line) (name : List Char) : Prop :=
  '(' ∈ line ∧
    ∃ before, trimEnd (line.takeWhile (· != '(')) = before ++ name ∧ SetsOff before

theorem setsOff_nil : SetsOff [] := fun _ last => absurd last (Option.not_mem_none _)

theorem SetsOff.append {s t : List Char} (first : SetsOff s) (second : SetsOff t) :
    SetsOff (s ++ t) := by
  intro c last
  by_cases none_ : t = []
  · rw [none_, List.append_nil] at last
    exact first c last
  · rw [List.getLast?_append_of_ne_nil _ none_] at last
    exact second c last

theorem setsOff_of_isAllBlank {s : List Char} (blank : isAllBlank s = true) : SetsOff s :=
  fun c last => .inl (isAllBlank_iff.mp blank c (List.mem_of_getLast? last))

theorem setsOff_of_isWordAndGap {word : String} {s : List Char} (is : IsWordAndGap word s) :
    SetsOff s := by
  obtain ⟨gap, ⟨some_, blank⟩, rfl⟩ := is
  intro c last
  rw [List.getLast?_append_of_ne_nil _ some_] at last
  exact setsOff_of_isAllBlank blank c last

theorem namesParameters_intro {before name gap rest : List Char} (setsOff : SetsOff before)
    (free : '(' ∉ before) (some_ : name ≠ [])
    (solid : ∀ c ∈ name, isBlank c = false ∧ c ≠ '(') (blank : isAllBlank gap = true) :
    NamesParameters (before ++ (name ++ (gap ++ '(' :: rest))) name := by
  refine ⟨by simp, before, ?_, setsOff⟩
  have free' : '(' ∉ before ++ name ++ gap := by
    rw [List.mem_append, List.mem_append, not_or, not_or]
    exact ⟨⟨free, fun mem => (solid _ mem).2 rfl⟩, parenthesis_not_mem blank⟩
  rw [← List.append_assoc, ← List.append_assoc, takeWhile_parenthesis free',
    trimEnd_append ?_ blank]
  intro c last
  rw [List.getLast?_append_of_ne_nil _ some_] at last
  exact (solid c (List.mem_of_getLast? last)).1

/-! ## Headers of rules with a name -/

section Rules

variable {rule : Rule} {line : Line} {capture : Capture} {h : Header}

theorem exists_scan_of_header? (found : rule.header? line = some h) :
    ∃ capture, rule.scan line = some capture := by
  unfold Rule.header? at found
  split at found
  next => cases found
  next capture read => exact ⟨capture, read⟩

theorem header?_of_scan_eq_none (rule : Rule) (read : rule.scan line = none) :
    rule.header? line = none := by
  rw [Rule.header?, read]

/-- A name without blanks is the name of the header as it is. -/
theorem header?_of_scan (rule : Rule) (read : rule.scan line = some capture)
    (solid : ∀ c ∈ capture.name, isBlank c = false) (some_ : capture.name ≠ []) :
    rule.header? line =
      if rule.guarded && Rule.namesStatement capture then none
      else some ⟨rule.kind, String.ofList capture.name, rule.style⟩ := by
  have named : (String.ofList capture.name).isEmpty = false := by
    rw [String.isEmpty_eq_false_iff]
    intro empty
    have none_ := congrArg String.toList empty
    rw [String.toList_ofList] at none_
    exact some_ none_
  simp only [Rule.header?, read, trim_of_solid solid, named, Bool.false_eq_true, if_false]

/-- The name of a header is the one that was scanned, and it is no statement keyword where these are
turned down. -/
theorem name_of_header? (found : rule.header? line = some h) (read : rule.scan line = some capture)
    (solid : ∀ c ∈ capture.name, isBlank c = false) (some_ : capture.name ≠ []) :
    h.name.toList = capture.name ∧ (rule.guarded = true → h.name ∉ statementKeywords) := by
  rw [header?_of_scan rule read solid some_] at found
  split at found
  next => cases found
  next allowed =>
    cases found
    refine ⟨String.toList_ofList, fun guarded mem => allowed ?_⟩
    rw [guarded, Bool.true_and, Rule.namesStatement, List.any_append, List.any_cons,
      trim_of_solid solid, List.contains_iff_mem.mpr mem, Bool.true_or, Bool.or_true]

end Rules

/-! ## Functions marked by indentation -/

/-- Whether a text is `def` and a name, after blanks and perhaps `async`, and perhaps with blanks at the
end. -/
def IsDefHead (name s : List Char) : Prop :=
  ∃ indent async word gap,
    s = indent ++ (async ++ (word ++ (name ++ gap))) ∧ isAllBlank indent = true ∧
      (async = [] ∨ IsWordAndGap "async" async) ∧ IsWordAndGap "def" word ∧
      isName isNameStart isWord name = true ∧ isAllBlank gap = true

section Def

variable {name s : List Char}

/-- No character of a plain name is blank or a parenthesis. -/
theorem solid_of_plainName (is : isName isNameStart isWord name = true) :
    ∀ c ∈ name, isBlank c = false ∧ c ≠ '(' :=
  fun c mem => solid_of_isWord (isWord_of_plainName is c mem)

theorem parenthesis_not_mem_of_isWordAndGap {word : String} (is : IsWordAndGap word s)
    (free : '(' ∉ word.toList) : '(' ∉ s := by
  obtain ⟨gap, ⟨-, blank⟩, rfl⟩ := is
  rw [List.mem_append, not_or]
  exact ⟨free, parenthesis_not_mem blank⟩

theorem IsDefHead.parenthesis_not_mem (is : IsDefHead name s) : '(' ∉ s := by
  obtain ⟨indent, async, word, gap, rfl, blank, is_async, is_word, is_name, blank'⟩ := is
  have free_async : '(' ∉ async := by
    rcases is_async with rfl | is_async
    · exact List.not_mem_nil
    · exact parenthesis_not_mem_of_isWordAndGap is_async (by decide)
  simp only [List.mem_append, not_or]
  exact ⟨Scanner.parenthesis_not_mem blank, free_async,
    parenthesis_not_mem_of_isWordAndGap is_word (by decide),
    fun mem => (solid_of_plainName is_name _ mem).2 rfl, Scanner.parenthesis_not_mem blank'⟩

/-- What is read as a function marked by indentation. -/
theorem exists_of_scanDef {line : Line} {capture : Capture} (found : scanDef line = some capture) :
    ∃ front rest, line = front ++ '(' :: rest ∧ IsDefHead capture.name front ∧
      capture.returns = [] := by
  simp only [scanDef, Option.bind_eq_bind, Option.bind_eq_some_iff] at found
  obtain ⟨s, word, ⟨name, t⟩, named, found⟩ := found
  split at found
  next opens =>
    cases found
    obtain ⟨indent, blank, line_eq⟩ := exists_trimStart line
    obtain ⟨async, async_eq, is_async⟩ := exists_skipWord "async" (trimStart line)
    obtain ⟨-, front, is_word, skip_eq⟩ := afterWord?_eq_some_iff.mp word
    obtain ⟨is_name, -, rfl⟩ := name?_eq_some_iff.mp named
    obtain ⟨gap, blank', t_eq⟩ := exists_trimStart t
    obtain ⟨rest, rest_eq⟩ := List.head?_eq_some_iff.mp (beq_iff_eq.mp opens)
    refine ⟨indent ++ (async ++ (front ++ (name ++ gap))), rest, ?_,
      ⟨indent, async, front, gap, rfl, blank, is_async, is_word, is_name, blank'⟩, rfl⟩
    rw [line_eq, async_eq, skip_eq, t_eq, rest_eq]
    simp only [List.append_assoc]
  next => cases found

/-- Such a line is read. -/
theorem scanDef_of_isDefHead (is : IsDefHead name s) (rest : List Char) :
    scanDef (s ++ '(' :: rest) = some ⟨name, []⟩ := by
  obtain ⟨indent, async, word, gap, rfl, blank, is_async, is_word, is_name, blank'⟩ := is
  have parenthesis : trimStart (gap ++ '(' :: rest) = '(' :: rest := by
    rw [trimStart_append blank']
    exact trimStart_of_flush (by rintro c ⟨⟩; rfl)
  have stop : ∀ c ∈ (gap ++ '(' :: rest).head?, isWord c = false := by
    intro c first
    cases gap with
    | nil =>
      cases first
      rfl
    | cons d gap =>
      cases first
      refine Bool.eq_false_iff.mpr fun word => ?_
      have blank := isAllBlank_iff.mp blank' c List.mem_cons_self
      rw [isBlank_of_isWord word] at blank
      cases blank
  have named : plainName? (name ++ (gap ++ '(' :: rest)) = some (name, gap ++ '(' :: rest) :=
    name?_eq_some_iff.mpr ⟨is_name, stop, rfl⟩
  have flush_name : Flush (name ++ (gap ++ '(' :: rest)) :=
    flush_append (ne_nil_of_isName is_name) (fun c mem => (solid_of_plainName is_name c mem).1) _
  have whole : indent ++ (async ++ (word ++ (name ++ gap))) ++ '(' :: rest =
      indent ++ (async ++ (word ++ (name ++ (gap ++ '(' :: rest)))) := by
    simp only [List.append_assoc]
  rw [whole]
  generalize name ++ (gap ++ '(' :: rest) = t at flush_name named
  have word_head : (word ++ t).head? = some 'd' := is_word.head? (by decide) t
  have after_word : afterWord? "def" (word ++ t) = some t :=
    afterWord?_eq_some_iff.mpr ⟨flush_name, word, is_word, rfl⟩
  -- With or without `async`, the blanks before it go first.
  have start : trimStart (indent ++ (async ++ (word ++ t))) = async ++ (word ++ t) ∧
      skipWord "async" (async ++ (word ++ t)) = word ++ t := by
    rw [trimStart_append blank]
    have flush_word : Flush (word ++ t) := by
      intro c first
      cases word_head.symm.trans first
      rfl
    rcases is_async with rfl | is_async
    · refine ⟨trimStart_of_flush flush_word, skipWord_of_head? ?_ (by decide)⟩
      rw [List.nil_append, word_head]
      decide
    · have async_head : (async ++ (word ++ t)).head? = some 'a' := is_async.head? (by decide) _
      refine ⟨trimStart_of_flush ?_, ?_⟩
      · intro c first
        cases async_head.symm.trans first
        rfl
      · rw [skipWord, afterWord?_eq_some_iff.mpr ⟨flush_word, async, is_async, rfl⟩,
          Option.getD_some]
  simp only [scanDef, start.1, start.2, after_word, named, parenthesis, Option.bind_eq_bind,
    Option.bind_some, List.head?_cons, beq_self_eq_true, if_true]

theorem namesParameters_of_scanDef {line : Line} {capture : Capture}
    (found : scanDef line = some capture) :
    isName isNameStart isWord capture.name = true ∧ NamesParameters line capture.name := by
  obtain ⟨front, rest, rfl, is, -⟩ := exists_of_scanDef found
  have free := is.parenthesis_not_mem
  obtain ⟨indent, async, word, gap, rfl, blank, is_async, is_word, is_name, blank'⟩ := is
  have async_off : SetsOff async := by
    rcases is_async with rfl | is_async
    · exact setsOff_nil
    · exact setsOff_of_isWordAndGap is_async
  have whole : indent ++ (async ++ (word ++ (capture.name ++ gap))) ++ '(' :: rest =
      indent ++ async ++ word ++ (capture.name ++ (gap ++ '(' :: rest)) := by
    simp only [List.append_assoc]
  refine ⟨is_name, whole ▸ namesParameters_intro ?_ ?_ (ne_nil_of_isName is_name)
    (solid_of_plainName is_name) blank'⟩
  · exact ((setsOff_of_isAllBlank blank).append async_off).append (setsOff_of_isWordAndGap is_word)
  · simp only [List.mem_append, not_or] at free ⊢
    exact ⟨⟨free.1, free.2.1⟩, free.2.2.1⟩

end Def

/-! ## Typed methods -/

section Typed

variable {name before s : List Char}

/-- What comes before a name ends in a blank, or in a star or an ampersand after one. -/
theorem setsOff_of_beforeName? {t : List Char} (found : beforeName? s = some t) : SetsOff s := by
  simp only [beforeName?] at found
  split at found
  next blank =>
    intro c last
    rw [← List.head?_reverse] at last
    have pieces := List.takeWhile_append_dropWhile (p := isSigil) (l := s.reverse)
    cases sigils : s.reverse.takeWhile isSigil with
    | nil =>
      rw [sigils, List.nil_append] at pieces
      rw [pieces, Option.mem_def.mp last] at blank
      exact .inl blank
    | cons d others =>
      rw [← pieces, sigils] at last
      cases last
      have sigil : isSigil c = true :=
        List.mem_takeWhile_imp (l := s.reverse) (sigils ▸ List.mem_cons_self)
      right
      simpa [isSigil] using sigil
  next => cases found

theorem namesParameters_of_scanTyped {line : Line} {capture : Capture}
    (found : scanTyped line = some capture) :
    isName isTypedStart isWord capture.name = true ∧ NamesParameters line capture.name := by
  unfold scanTyped at found
  split at found
  next => cases found
  next opens =>
    simp only [Option.bind_eq_bind, Option.bind_eq_some_iff] at found
    obtain ⟨⟨name, before⟩, named, _, before', _, _, found⟩ := found
    cases found
    refine ⟨isName_of_lastName? named, by simpa using opens, before, ?_,
      setsOff_of_beforeName? before'⟩
    exact (append_of_lastName? named).symm

end Typed

/-! ## Methods of scripts -/

section Script

theorem solid_of_scriptName {name : List Char} (is : isName isScriptStart isScriptChar name = true) :
    ∀ c ∈ name, isBlank c = false ∧ c ≠ '(' := by
  have other : ∀ c, isScriptChar c = true → isBlank c = false ∧ c ≠ '(' := by
    intro c char
    rw [isScriptChar, Bool.or_eq_true] at char
    rcases char with word | dollar
    · exact solid_of_isWord word
    · rw [beq_iff_eq.mp dollar]
      decide
  refine forall_mem_of_isName is (fun c start => other c ?_) other
  rw [isScriptStart, Bool.or_eq_true] at start
  rw [isScriptChar, Bool.or_eq_true]
  exact start.imp_left isWord_of_isNameStart

theorem namesParameters_of_scanMethod {line : Line} {capture : Capture}
    (found : scanMethod line = some capture) :
    isName isScriptStart isScriptChar capture.name = true ∧ NamesParameters line capture.name := by
  obtain ⟨s, mem, found⟩ := List.exists_of_findSome?_eq_some found
  simp only [scanMethodName, Option.bind_eq_bind, Option.bind_eq_some_iff] at found
  obtain ⟨⟨name, t⟩, named, rest, opens, _, _, found⟩ := found
  split at found
  next =>
    cases found
    obtain ⟨indent, blank, line_eq⟩ := exists_trimStart line
    obtain ⟨mods, mods_eq, made, ends⟩ :=
      (exists_of_mem_afterModifiers mem).resolve_right List.not_mem_nil
    obtain ⟨star, star_eq, is_star⟩ :
        ∃ star, s = star ++ (after? "*" s).getD s ∧ (star = [] ∨ star = ['*']) := by
      cases found : after? "*" s with
      | none => exact ⟨[], rfl, .inl rfl⟩
      | some t => exact ⟨['*'], after?_eq_some_iff.mp found, .inr rfl⟩
    obtain ⟨is, -, name_eq⟩ := name?_eq_some_iff.mp named
    obtain ⟨gap, blank', t_eq⟩ := exists_trimStart t
    have whole : line = indent ++ (mods ++ star) ++ (name ++ (gap ++ '(' :: rest)) := by
      rw [line_eq, mods_eq, star_eq, name_eq, t_eq, after?_eq_some_iff.mp opens]
      simp only [List.append_assoc]
      rfl
    refine ⟨is, whole ▸ namesParameters_intro ?_ ?_ (ne_nil_of_isName is) (solid_of_scriptName is)
      blank'⟩
    · have is_star_off : SetsOff star := by
        rcases is_star with rfl | rfl
        · exact setsOff_nil
        · rintro c ⟨⟩
          exact .inr (.inl rfl)
      have mods_off : SetsOff mods := fun c last => .inl (ends c last)
      exact (setsOff_of_isAllBlank blank).append (mods_off.append is_star_off)
    · have free_mods : '(' ∉ mods := by
        intro inside
        rcases made _ inside with blank | ⟨word, of_words, inside⟩
        · cases blank
        · have free : ∀ word ∈ methodModifiers, '(' ∉ word.toList := by decide
          exact free word of_words inside
      have free_star : '(' ∉ star := by
        rcases is_star with rfl | rfl <;> decide
      simp only [List.mem_append, not_or]
      exact ⟨parenthesis_not_mem blank, free_mods, free_star⟩
  next => cases found

end Script

/-! ## All of them -/

/-- What holds of the names that a rule scans holds of those of its headers. -/
theorem named_of_header? (rule : Rule) {first other : Char → Bool} {line : Line} {h : Header}
    (reads : ∀ {capture}, rule.scan line = some capture →
      isName first other capture.name = true ∧ NamesParameters line capture.name)
    (solid : ∀ {name}, isName first other name = true → ∀ c ∈ name, isBlank c = false ∧ c ≠ '(')
    (found : rule.header? line = some h) :
    isName first other h.name.toList = true ∧ NamesParameters line h.name.toList ∧
      (rule.guarded = true → h.name ∉ statementKeywords) := by
  obtain ⟨capture, read⟩ := exists_scan_of_header? found
  obtain ⟨is, names⟩ := reads read
  obtain ⟨name_eq, allowed⟩ :=
    name_of_header? found read (fun c mem => (solid is c mem).1) (ne_nil_of_isName is)
  exact ⟨name_eq ▸ is, name_eq ▸ names, allowed⟩

/-- Functions marked by indentation are found on the lines that have `def` and a name before their
first parenthesis. -/
theorem pythonDef_header?_eq_some_iff {line : Line} {h : Header} :
    pythonDef.header? line = some h ↔
      '(' ∈ line ∧ IsDefHead h.name.toList (line.takeWhile (· != '(')) ∧
        h.kind = .function ∧ h.style = .indent := by
  have header_eq : ∀ {name front : List Char}, IsDefHead name front → ∀ rest,
      pythonDef.header? (front ++ '(' :: rest) =
        some ⟨.function, String.ofList name, .indent⟩ := by
    intro name front is rest
    have is_name : isName isNameStart isWord name = true := by
      obtain ⟨_, _, _, _, -, -, -, -, is_name, -⟩ := is
      exact is_name
    exact header?_of_scan pythonDef (scanDef_of_isDefHead is rest)
      (fun c mem => (solid_of_plainName is_name c mem).1) (ne_nil_of_isName is_name)
  constructor
  · intro found
    obtain ⟨capture, read⟩ := exists_scan_of_header? found
    obtain ⟨front, rest, rfl, is, -⟩ := exists_of_scanDef read
    rw [header_eq is] at found
    cases found
    rw [takeWhile_parenthesis is.parenthesis_not_mem, String.toList_ofList]
    exact ⟨by simp, is, rfl, rfl⟩
  · rintro ⟨opens, is, kind, style⟩
    obtain ⟨front, rest, rfl, free⟩ := List.eq_append_cons_of_mem opens
    rw [takeWhile_parenthesis free] at is
    rw [header_eq is, String.ofList_toList, ← kind, ← style]

/-- **A callable is named by the word before its parameter list.**  What a rule reads on a line is what
its pattern finds there, if the ways to read the line are tried in their order.  Where one of the three
rules finds a header, its name is a name of the kind that the rule reads, and it stands right before
the first parenthesis of the line, blanks apart, at the start or after a blank, a star or an
ampersand.  For methods it is no statement keyword.  And functions marked by indentation are found on
the lines that have a parenthesis, and `def` and a name before the first one, after blanks and perhaps
`async`, and on no others. -/
theorem callable_named_by_word_before_parameters (line : Line) :
    (∀ rule ∈ rules, rule.scan line = rule.pattern.find? line) ∧
    (∀ h, pythonDef.header? line = some h →
      isName isNameStart isWord h.name.toList = true ∧ NamesParameters line h.name.toList) ∧
    (∀ h, typedMethod.header? line = some h →
      isName isTypedStart isWord h.name.toList = true ∧ NamesParameters line h.name.toList ∧
        h.name ∉ statementKeywords) ∧
    (∀ h, scriptMethod.header? line = some h →
      isName isScriptStart isScriptChar h.name.toList = true ∧ NamesParameters line h.name.toList ∧
        h.name ∉ statementKeywords) ∧
    ∀ h, pythonDef.header? line = some h ↔
      '(' ∈ line ∧ IsDefHead h.name.toList (line.takeWhile (· != '(')) ∧
        h.kind = .function ∧ h.style = .indent := by
  refine ⟨fun rule mem => scan_eq_find? mem line, fun h found => ?_, fun h found => ?_,
    fun h found => ?_, fun h => ?_⟩
  · obtain ⟨is, names, -⟩ := named_of_header? pythonDef
      namesParameters_of_scanDef solid_of_plainName found
    exact ⟨is, names⟩
  · obtain ⟨is, names, allowed⟩ := named_of_header? typedMethod
      namesParameters_of_scanTyped solid_of_typedName found
    exact ⟨is, names, allowed rfl⟩
  · obtain ⟨is, names, allowed⟩ := named_of_header? scriptMethod
      namesParameters_of_scanMethod solid_of_scriptName found
    exact ⟨is, names, allowed rfl⟩
  · exact pythonDef_header?_eq_some_iff

/-- One line for each of the rules.  The first one has two words before the name, the second one a type
whose first word is a modifier, sigils and another parenthesis, and the third one a modifier and a
star. -/
theorem callables_named_before_parameters :
    let indented := "\tasync  def n\u00e4me (self, f=(1)):".toList
    let typed := "  static const char *&n\u00e4me\u3000(int (*f)(void)) \x7b".toList
    let script := "static *$n\u00e4me (a) \x7b".toList
    (pythonDef.header? indented = some ⟨.function, "n\u00e4me", .indent⟩ ∧
      NamesParameters indented "n\u00e4me".toList) ∧
    (typedMethod.header? typed = some ⟨.function, "n\u00e4me", .brace⟩ ∧
      NamesParameters typed "n\u00e4me".toList) ∧
    scriptMethod.header? script = some ⟨.function, "$n\u00e4me", .brace⟩ ∧
      NamesParameters script "$n\u00e4me".toList := by
  intro indented typed script
  have found : pythonDef.header? indented = some ⟨.function, "n\u00e4me", .indent⟩ := by
    decide
  have found' : typedMethod.header? typed = some ⟨.function, "n\u00e4me", .brace⟩ := by
    decide +kernel
  have found'' : scriptMethod.header? script = some ⟨.function, "$n\u00e4me", .brace⟩ := by
    decide +kernel
  exact ⟨⟨found, ((callable_named_by_word_before_parameters indented).2.1 _ found).2⟩,
    ⟨found', ((callable_named_by_word_before_parameters typed).2.2.1 _ found').2.1⟩,
    found'', ((callable_named_by_word_before_parameters script).2.2.2.1 _ found'').2.1⟩

end Header
end CodeGloss
