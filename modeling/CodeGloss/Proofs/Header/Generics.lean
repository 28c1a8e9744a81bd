import CodeGloss.Proofs.Header.Blank
import CodeGloss.Proofs.Header.Callable

/-!
# Generic parameter lists

The rules for functions of scripts and for implementations skip a list in angle brackets up to the first
bracket that closes.  Here it is said what that means for every list whose brackets are balanced
(`Header.IsParameterList`), one at a time:

* `IsParameterList.cut`: nothing is left of a list (`Header.leftOver`) exactly if there is no other
  list inside.  What is left of it otherwise ends with the bracket that closes the list, and has no
  parenthesis and no brace.
* `scanFunction_function`: no function is read where something is left, because a parenthesis has
  to come next.
* `trim_subject?_iff`: for an implementation what is left becomes the beginning of the name.  The type
  is found all the same if the list itself says the type again, in front of a `where`.
* `parameter_list_read_iff`: both together.
-/

namespace CodeGloss
namespace Header

open Scanner Text

/-- A character that is not in the beginning of a text is in the rest of it. -/
theorem exists_append_of_not_mem {c : Char} {s t u v : List Char} (free : c ∉ u)
    (same : s ++ c :: t = u ++ v) : ∃ w, s = u ++ w ∧ v = w ++ c :: t := by
  rcases List.append_eq_append_iff.mp same with ⟨w, rfl, whole⟩ | ⟨w, rfl, rfl⟩
  · cases w with
    | nil => exact ⟨[], by simp, whole.symm⟩
    | cons d w =>
      cases whole
      exact absurd (by simp) free
  · exact ⟨w, rfl, rfl⟩

/-! ## Parameter lists -/

/-- Whether the angle brackets of a text are balanced, and there are no parentheses and no braces
between them. -/
inductive Balanced : List Char → Prop where
  | nil : Balanced []
  | other (c : Char) {s : List Char} (plain : c ∉ ['<', '>', '(', ')', '{', '}'])
      (follows : Balanced s) : Balanced (c :: s)
  | list (inner : List Char) {s : List Char} (nested : Balanced inner) (follows : Balanced s) :
      Balanced ('<' :: (inner ++ '>' :: s))

/-- Whether a text is a list in angle brackets, from the first one to the one that closes it. -/
def IsParameterList (list : List Char) : Prop :=
  ∃ inner, Balanced inner ∧ list = '<' :: (inner ++ ['>'])

/-- What is left of a list behind its first closing bracket. -/
def leftOver (list : List Char) : List Char :=
  (list.dropWhile (· != '>')).tail

section Lists

variable {s list : List Char}

/-- Text without brackets may stand in front. -/
theorem Balanced.append_left {front : List Char}
    (plain : front.all (· ∉ ['<', '>', '(', ')', '{', '}']) = true) (balanced : Balanced s) :
    Balanced (front ++ s) := by
  induction front with
  | nil => exact balanced
  | cons c front ih =>
    rw [List.all_cons, Bool.and_eq_true, decide_eq_true_eq] at plain
    exact .other c plain.1 (ih plain.2)

theorem Balanced.foreign (balanced : Balanced s) : ∀ c ∈ s, c ∉ ['(', ')', '{', '}'] := by
  induction balanced with
  | nil => exact nofun
  | other c plain _ ih =>
    refine List.forall_mem_cons.mpr ⟨fun mem => plain ?_, ih⟩
    exact List.mem_cons_of_mem _ (List.mem_cons_of_mem _ mem)
  | list inner _ _ ih ih' =>
    intro c mem
    simp only [List.mem_cons, List.mem_append] at mem
    rcases mem with rfl | mem | rfl | mem
    · decide
    · exact ih c mem
    · decide
    · exact ih' c mem

/-- There is a bracket that closes if and only if there is one that opens. -/
theorem Balanced.closing_mem_iff (balanced : Balanced s) : '>' ∈ s ↔ '<' ∈ s := by
  induction balanced with
  | nil => exact iff_of_false List.not_mem_nil List.not_mem_nil
  | other c plain _ ih =>
    have ne : '>' ≠ c ∧ '<' ≠ c := by
      constructor <;> rintro rfl <;> exact plain (by decide)
    rw [List.mem_cons, List.mem_cons, or_iff_right ne.1, or_iff_right ne.2, ih]
  | list inner _ _ _ _ => exact iff_of_true (by simp) List.mem_cons_self

theorem leftOver_append {front : List Char} (free : '>' ∉ front) (t : List Char) :
    leftOver ('<' :: (front ++ '>' :: t)) = t := by
  have others : ∀ c ∈ '<' :: front, (c != '>') = true := by
    intro c mem
    rw [bne_iff_ne]
    rintro rfl
    rcases List.mem_cons.mp mem with bracket | mem
    · cases bracket
    · exact free mem
  have here : ∀ c ∈ ('>' :: t).head?, (c != '>') = false := by
    rintro c ⟨⟩
    rfl
  rw [leftOver, ← List.cons_append, dropWhile_append_of_stop others here, List.tail_cons]

/-- A list up to its first closing bracket, and what is left of it: nothing if there is no list
inside, and otherwise something that ends with the list. -/
theorem IsParameterList.cut (is : IsParameterList list) :
    (∃ front, '>' ∉ front ∧ list = '<' :: (front ++ '>' :: leftOver list)) ∧
      (leftOver list = [] ↔ '<' ∉ list.tail) ∧
      (∀ c ∈ leftOver list, c ∉ ['(', ')', '{', '}']) ∧
      ∀ c ∈ (leftOver list).getLast?, c = '>' := by
  obtain ⟨inner, balanced, rfl⟩ := is
  have opens : '<' ∈ ('<' :: (inner ++ ['>'])).tail ↔ '<' ∈ inner := by simp
  by_cases nested : '<' ∈ inner
  · obtain ⟨front, back, rfl, free⟩ :=
      List.eq_append_cons_of_mem (balanced.closing_mem_iff.mpr nested)
    have list_eq : front ++ '>' :: back ++ ['>'] = front ++ '>' :: (back ++ ['>']) :=
      List.append_assoc _ _ _
    rw [opens, list_eq, leftOver_append free]
    refine ⟨⟨front, free, rfl⟩, iff_of_false (by simp) (not_not_intro nested), ?_, by simp⟩
    intro c mem
    rcases List.mem_append.mp mem with mem | mem
    · exact balanced.foreign c (by simp [mem])
    · rw [List.mem_singleton.mp mem]
      decide
  · have free : '>' ∉ inner := fun mem => nested (balanced.closing_mem_iff.mp mem)
    rw [opens, leftOver_append free]
    exact ⟨⟨inner, free, rfl⟩, iff_of_true rfl nested, nofun, nofun⟩

/-- A rule that skips a list goes on with what is left of it. -/
theorem IsParameterList.skipGroup?_append (is : IsParameterList list) (t : List Char) :
    skipGroup? '<' '>' (list ++ t) = some (leftOver list ++ t) := by
  obtain ⟨⟨front, free, list_eq⟩, -, -, -⟩ := is.cut
  have whole : list ++ t = '<' :: (front ++ '>' :: (leftOver list ++ t)) := by
    have split_ := congrArg (· ++ t) list_eq
    simpa only [List.cons_append, List.append_assoc] using split_
  rw [whole, skipGroup?, if_pos (beq_self_eq_true '<')]
  exact afterFirst?_eq_some_iff.mpr ⟨front, free, rfl⟩

/-- There is no blank in front of a list. -/
theorem IsParameterList.flush_append (is : IsParameterList list) (t : List Char) :
    Flush (list ++ t) := by
  obtain ⟨inner, -, rfl⟩ := is
  rintro c ⟨⟩
  rfl

/-- What is left of a list starts with blanks and a character that is no parenthesis and no brace. -/
theorem IsParameterList.exists_start (is : IsParameterList list) (some_ : leftOver list ≠ []) :
    ∃ gap c rest, leftOver list = gap ++ c :: rest ∧ isAllBlank gap = true ∧ isBlank c = false ∧
      c ∉ ['(', ')', '{', '}'] := by
  obtain ⟨-, -, foreign, ends⟩ := is.cut
  obtain ⟨gap, blank, left_eq⟩ := exists_trimStart (leftOver list)
  have flush := flush_trimStart (leftOver list)
  cases start : trimStart (leftOver list) with
  | nil =>
    -- The bracket that closes the list is not blank.
    rw [start, List.append_nil] at left_eq
    have last := ends _ (List.getLast?_eq_some_getLast some_)
    have mem := List.getLast_mem some_
    rw [last, left_eq] at mem
    cases isAllBlank_iff.mp blank _ mem
  | cons c rest =>
    rw [start] at left_eq flush
    exact ⟨gap, c, rest, left_eq, blank, flush c rfl, foreign c (by simp [left_eq])⟩

/-- Behind what is left of a list a parenthesis comes next only if nothing is left. -/
theorem IsParameterList.head?_trimStart_iff (is : IsParameterList list) (t : List Char) :
    (trimStart (leftOver list ++ '(' :: t)).head? = some '(' ↔ leftOver list = [] := by
  by_cases none_ : leftOver list = []
  · rw [none_]
    exact iff_of_true rfl rfl
  · obtain ⟨gap, c, rest, left_eq, blank, solid, foreign⟩ := is.exists_start none_
    rw [left_eq, List.append_assoc, trimStart_append blank, List.cons_append,
      trimStart_of_flush (by rintro d ⟨⟩; exact solid), List.head?_cons, Option.some.injEq]
    refine iff_of_false ?_ (by simp)
    rintro rfl
    exact foreign (by decide)

end Lists

/-! ## Function declarations -/

/-- A function with type parameters. -/
def functionLine (name list : List Char) : Line :=
  "function ".toList ++ (name ++ (list ++ "() \x7b".toList))

section Functions

variable {name list : List Char}

theorem flush_name_append (is_name : isName isScriptStart isScriptChar name = true)
    (t : List Char) : Flush (name ++ t) :=
  flush_append (ne_nil_of_isName is_name) (fun c mem => (solid_of_scriptName is_name c mem).1) t

/-- A name starts with nothing else than the first character of a name. -/
theorem head?_name_append_ne {c : Char}
    (is_name : isName isScriptStart isScriptChar name = true) (other : isScriptStart c = false)
    (t : List Char) : (name ++ t).head? ≠ some c := by
  obtain ⟨d, rest, rfl, first, -⟩ := isName_iff.mp is_name
  rintro ⟨⟩
  rw [first] at other
  cases other

/-- A function is read if and only if there is nothing left of its parameter list. -/
theorem scanFunction_function (is_name : isName isScriptStart isScriptChar name = true)
    (is_list : IsParameterList list) (t : List Char) :
    scanFunction ("function ".toList ++ (name ++ (list ++ '(' :: t))) =
      if leftOver list = [] then some ⟨name, []⟩ else none := by
  have group := is_list.skipGroup?_append ('(' :: t)
  have opens := is_list.head?_trimStart_iff t
  have stop : ∀ c ∈ (list ++ '(' :: t).head?, isScriptChar c = false := by
    obtain ⟨inner, -, rfl⟩ := is_list
    rintro c ⟨⟩
    rfl
  have blank := trimStart_of_flush (is_list.flush_append ('(' :: t))
  generalize list ++ '(' :: t = s at group stop blank
  have start : after? "function" (skipWords ["export", "default", "async"]
      (trimStart ("function ".toList ++ (name ++ s)))) = some (' ' :: (name ++ s)) := rfl
  have boundary : atWordEnd (' ' :: (name ++ s)) = true := rfl
  have blank' := trimStart_of_flush (flush_name_append is_name s)
  have gap : trimStart (' ' :: (name ++ s)) = name ++ s := blank'
  have no_star : after? "*" (name ++ s) = none :=
    after?_of_head? (head?_name_append_ne is_name rfl s) (by decide)
  have named : scriptName? (name ++ s) = some (name, s) :=
    name?_eq_some_iff.mpr ⟨is_name, stop, rfl⟩
  simp only [scanFunction, start, boundary, gap, blank, blank', no_star, named, group, beq_iff_eq,
    opens, Option.bind_eq_bind, Option.bind_some, Option.getD_none, Option.getD_some,
    Bool.not_true, Bool.false_eq_true, if_false]

/-- No class starts with `function`. -/
theorem scanClass_function (t : List Char) : scanClass ("function ".toList ++ t) = none := by
  have none_ : afterAnyWord? classModifiers ("function ".toList ++ t) = none := rfl
  have skipped : skipClassModifiers ("function ".toList ++ t) = "function ".toList ++ t := by
    rw [skipClassModifiers, afterModifiers_of_none none_, List.headD_cons]
  have start : skipWords ["export", "default"] (trimStart ("function ".toList ++ t)) =
      "function ".toList ++ t := rfl
  rw [scanClass, start, skipped]
  rfl

/-- A name is no method where no parenthesis follows it. -/
theorem scanMethodName_eq_none {s t : List Char}
    (named : scriptName? ((after? "*" s).getD s) = some (name, t))
    (closed : after? "(" (trimStart t) = none) : scanMethodName s = none := by
  simp only [scanMethodName, named, closed, Option.bind_eq_bind, Option.bind_some, Option.bind_none]

/-- In front of a name the word `function` is no method. -/
theorem scanMethod_function {t : List Char} (flush : Flush t) (other : t.head? ≠ some '(') :
    scanMethod ("function ".toList ++ t) = none := by
  have none_ : afterAnyWord? methodModifiers (trimStart ("function ".toList ++ t)) = none := rfl
  have named : scriptName? ("function ".toList ++ t) = some ("function".toList, ' ' :: t) := by
    refine name?_eq_some_iff.mpr ⟨by decide, ?_, rfl⟩
    rintro c ⟨⟩
    rfl
  have closed : after? "(" (trimStart (' ' :: t)) = none := by
    rw [show trimStart (' ' :: t) = trimStart t from rfl, trimStart_of_flush flush]
    exact after?_of_head? other (by decide)
  rw [scanMethod, afterModifiers_of_none none_, List.findSome?_singleton]
  exact scanMethodName_eq_none (s := "function ".toList ++ t) named closed

/-- A function with type parameters is tried as a function alone. -/
theorem recognize_functionLine (is_name : isName isScriptStart isScriptChar name = true)
    (list : List Char) : recognize (some .typeScript) (functionLine name list) =
      scriptFunction.header? (functionLine name list) := by
  have no_class : braceClass.header? (functionLine name list) = none :=
    header?_of_scan_eq_none braceClass (scanClass_function _)
  have no_binding : scriptBinding.header? (functionLine name list) = none :=
    header?_of_scan_eq_none scriptBinding rfl
  have no_method : scriptMethod.header? (functionLine name list) = none :=
    header?_of_scan_eq_none scriptMethod
      (scanMethod_function (flush_name_append is_name _) (head?_name_append_ne is_name rfl _))
  show List.findSome? _ [scriptFunction, braceClass, scriptBinding, scriptMethod] = _
  rw [List.findSome?_cons, List.findSome?_cons, no_class, List.findSome?_cons, no_binding,
    List.findSome?_cons, no_method, List.findSome?_nil]
  cases scriptFunction.header? (functionLine name list) <;> rfl

/-- A function with type parameters is read under its name, or not at all. -/
theorem scriptFunction_header?_eq (is_name : isName isScriptStart isScriptChar name = true)
    (is_list : IsParameterList list) :
    scriptFunction.header? (functionLine name list) =
      if '<' ∈ list.tail then none else some ⟨.function, String.ofList name, .brace⟩ := by
  have read : scanFunction (functionLine name list) = _ :=
    scanFunction_function is_name is_list ") \x7b".toList
  by_cases nested : '<' ∈ list.tail
  · rw [if_neg fun none_ => is_list.cut.2.1.mp none_ nested] at read
    rw [header?_of_scan_eq_none scriptFunction read, if_pos nested]
  · rw [if_pos (is_list.cut.2.1.mpr nested)] at read
    have header := header?_of_scan scriptFunction read
      (fun c mem => (solid_of_scriptName is_name c mem).1) (ne_nil_of_isName is_name)
    rw [header, if_neg nested]
    rfl

end Functions

/-! ## Implementations -/

/-- An implementation with generic parameters, for a type. -/
def implLine (list type : List Char) : Line :=
  "impl".toList ++ (list ++ ' ' :: (type ++ " \x7b".toList))

section Subjects

variable {last : Char} {s t words type : List Char}

/-- What no word goes on with may follow. -/
theorem atWordEnd_append {c : Char} (other : isWord c = false) (s t : List Char) :
    atWordEnd (s ++ c :: t) = atWordEnd s := by
  cases s with
  | nil =>
    show (!isWord c) = true
    rw [other, Bool.not_false]
  | cons d s => rfl

/-- No subject ends within a word. -/
theorem endsSubject_of_isWord {c : Char} (before : isWord last = true) (word : isWord c = true)
    (s : List Char) : endsSubject last (c :: s) = false := by
  have flush : trimStart (c :: s) = c :: s :=
    trimStart_of_flush (by rintro d ⟨⟩; exact isBlank_of_isWord word)
  rw [endsSubject, flush]
  split
  next heads => cases heads
  next heads =>
    cases heads
    cases word
  next =>
    have same : decide ((c :: s).length < (c :: s).length) = false :=
      decide_eq_false (Nat.lt_irrefl _)
    rw [before, same, Bool.not_true, Bool.or_false, Bool.and_false]

/-- A subject ends in front of blanks and a `where`. -/
theorem endsSubject_where {gap rest : List Char} (is_gap : IsGap gap)
    (word_end : atWordEnd rest = true) (last : Char) :
    endsSubject last (gap ++ ("where".toList ++ rest)) = true := by
  have next : trimStart (gap ++ ("where".toList ++ rest)) = "where".toList ++ rest := by
    rw [trimStart_append is_gap.2, trimStart_of_flush (by rintro c ⟨⟩; rfl)]
  have word : startsWord "where" ("where".toList ++ rest) = true := by
    rw [startsWord, after?_eq_some_iff.mpr rfl]
    exact word_end
  have shorter : ("where".toList ++ rest).length < (gap ++ ("where".toList ++ rest)).length := by
    have some_ := List.length_pos_iff.mpr is_gap.1
    generalize "where".toList ++ rest = t
    rw [List.length_append]
    exact Nat.lt_add_of_pos_left some_
  rw [endsSubject, next]
  split
  next => rfl
  next => rfl
  next => rw [word, decide_eq_true shorter, Bool.true_or, Bool.and_self]

/-- A word in front of something that ends a subject is the subject. -/
theorem subjectTail_append (before : isWord last = true) (word : ∀ c ∈ words, isWord c = true)
    (ends : ∀ last, endsSubject last t = true) : subjectTail last (words ++ t) = words := by
  induction words generalizing last with
  | nil =>
    cases t with
    | nil => rfl
    | cons c t => rw [List.nil_append, subjectTail, if_pos (ends last)]
  | cons c words ih =>
    rw [List.forall_mem_cons] at word
    rw [List.cons_append, subjectTail, endsSubject_of_isWord before word.1,
      if_neg Bool.false_ne_true, ih word.1 word.2]

/-- Whether a subject with a given last character may end in front of blanks and a text: there is no
text, or it starts with a brace, or with a `where` that the subject does not run into. -/
def EndsBehind (last : Char) (gap t : List Char) : Prop :=
  t = [] ∨ t.head? = some '{' ∨
    ∃ rest, t = "where".toList ++ rest ∧ atWordEnd rest = true ∧ (gap ≠ [] ∨ isWord last = false)

theorem exists_of_endsSubject (ends : endsSubject last s = true) :
    ∃ gap t, s = gap ++ t ∧ isAllBlank gap = true ∧ EndsBehind last gap t := by
  obtain ⟨gap, blank, s_eq⟩ := exists_trimStart s
  refine ⟨gap, trimStart s, s_eq, blank, ?_⟩
  rw [endsSubject] at ends
  split at ends
  next none_ => exact .inl none_
  next rest brace => exact .inr (.inl (by rw [brace, List.head?_cons]))
  next =>
    rw [Bool.and_eq_true, Bool.or_eq_true, decide_eq_true_eq, Bool.not_eq_true', startsWord] at ends
    obtain ⟨word, apart⟩ := ends
    split at word
    next r found =>
      refine .inr (.inr ⟨r, after?_eq_some_iff.mp found, word, apart.imp_left fun lt => ?_⟩)
      rintro rfl
      rw [List.nil_append] at s_eq
      rw [← s_eq] at lt
      exact absurd lt (Nat.lt_irrefl _)
    next => cases word

/-- What is read as the rest of a subject, the blanks behind it, and what ends it. -/
theorem exists_subjectTail (last : Char) (s : List Char) :
    ∃ gap t, s = subjectTail last s ++ (gap ++ t) ∧ isAllBlank gap = true ∧
      EndsBehind ((subjectTail last s).getLastD last) gap t := by
  induction s generalizing last with
  | nil => exact ⟨[], [], rfl, rfl, .inl rfl⟩
  | cons c s ih =>
    rw [subjectTail]
    split
    next ends => exact exists_of_endsSubject ends
    next =>
      obtain ⟨gap, t, s_eq, blank, ends⟩ := ih c
      refine ⟨gap, t, by rw [List.cons_append, ← s_eq], blank, ?_⟩
      rwa [List.getLastD_cons]

end Subjects

section Implementations

variable {list type : List Char}

/-- The subject starts behind the first closing bracket. -/
theorem scanImpl_implLine (is_list : IsParameterList list) (type : List Char) :
    scanImpl (implLine list type) =
      (subject? (leftOver list ++ ' ' :: (type ++ " \x7b".toList))).map fun name => ⟨name, []⟩ := by
  have start : after? "impl" (skipWord "unsafe" (trimStart (implLine list type))) =
      some (list ++ ' ' :: (type ++ " \x7b".toList)) := rfl
  have group := is_list.skipGroup?_append (' ' :: (type ++ " \x7b".toList))
  simp only [scanImpl, start, group, Option.bind_eq_bind, Option.bind_some]
  rw [Option.map_eq_bind]
  rfl

/-- An implementation is tried as one alone. -/
theorem recognize_implLine (list type : List Char) :
    recognize (some .rust) (implLine list type) = rustImpl.header? (implLine list type) := by
  have no_fn : rustFn.header? (implLine list type) = none :=
    header?_of_scan_eq_none rustFn rfl
  have no_type : rustType.header? (implLine list type) = none :=
    header?_of_scan_eq_none rustType rfl
  show List.findSome? _ [rustFn, rustType, rustImpl] = _
  rw [List.findSome?_cons, no_fn, List.findSome?_cons, no_type, List.findSome?_singleton]

/-- No word is the name of what has no name. -/
theorem ne_anonymous (is_type : isName isNameStart isWord type = true) :
    Definition.anonymous ≠ String.ofList type := by
  intro same
  have mem : '<' ∈ Definition.anonymous.toList := by decide
  rw [same, String.toList_ofList] at mem
  cases isWord_of_plainName is_type _ mem

theorem rustImpl_header?_eq (line : Line) :
    rustImpl.header? line = (scanImpl line).map fun capture =>
      let name := String.ofList (trim capture.name)
      ⟨.classLike, if name.isEmpty then Definition.anonymous else name, .brace⟩ := by
  rw [Rule.header?]
  cases read : rustImpl.scan line with
  | none => rw [show scanImpl line = none from read, Option.map_none]
  | some capture =>
    rw [show scanImpl line = some capture from read, Option.map_some]
    rfl

/-- An implementation has the name of a type if and only if the type is the subject, blanks apart. -/
theorem rustImpl_header?_iff (is_type : isName isNameStart isWord type = true) (line : Line) :
    rustImpl.header? line = some ⟨.classLike, String.ofList type, .brace⟩ ↔
      (scanImpl line).map (fun capture => trim capture.name) = some type := by
  rw [rustImpl_header?_eq]
  cases scanImpl line with
  | none => simp only [Option.map_none, reduceCtorEq]
  | some capture =>
    simp only [Option.map_some, Option.some.injEq, Header.mk.injEq, true_and, and_true]
    split
    next none_ =>
      rw [String.isEmpty_iff] at none_
      refine iff_of_false (ne_anonymous is_type) fun same => ne_nil_of_isName is_type ?_
      rw [← same, ← String.toList_ofList (l := trim capture.name), none_]
      rfl
    next => exact String.ofList_inj

/-- What is behind the list, blanks apart, is the subject, or the beginning of it. -/
theorem subject?_append_cons {gap rest : List Char} {c : Char} (is_gap : IsGap gap)
    (solid : isBlank c = false) (plain : c ≠ '{') :
    subject? (gap ++ c :: rest) = some (c :: subjectTail c rest) := by
  have after : afterBlanks? (gap ++ c :: rest) = some (c :: rest) :=
    afterBlanks?_eq_some_iff.mpr ⟨by rintro d ⟨⟩; exact solid, gap, is_gap, rfl⟩
  simp only [subject?, after, Option.bind_eq_bind, Option.bind_some]

/-- A word behind blanks is the subject if what follows it ends one. -/
theorem subject?_of_isName {gap t : List Char} (is_gap : IsGap gap)
    (is_type : isName isNameStart isWord type = true) (ends : ∀ last, endsSubject last t = true) :
    subject? (gap ++ (type ++ t)) = some type := by
  obtain ⟨c, rest, rfl, start, words⟩ := isName_iff.mp is_type
  have word := isWord_of_isNameStart start
  rw [List.cons_append, subject?_append_cons is_gap (isBlank_of_isWord word),
    subjectTail_append word words ends]
  rintro rfl
  cases word

theorem subject?_of_flush {s : List Char} (flush : Flush s) : subject? s = none := by
  have none_ : afterBlanks? s = none := by
    refine Option.eq_none_iff_forall_ne_some.mpr fun t found => ?_
    obtain ⟨-, gap, ⟨some_, blank⟩, rfl⟩ := afterBlanks?_eq_some_iff.mp found
    obtain ⟨c, gap, rfl⟩ := List.exists_cons_of_ne_nil some_
    have solid := flush c rfl
    rw [isAllBlank_iff.mp blank c List.mem_cons_self] at solid
    cases solid
  rw [subject?, none_]
  rfl

/-- Whether the type itself stands between the first closing bracket of a list and a `where` in the
list. -/
def HoldsSubject (type list : List Char) : Prop :=
  ∃ gap gap' rest, leftOver list = gap ++ (type ++ (gap' ++ ("where".toList ++ rest))) ∧
    IsGap gap ∧ IsGap gap' ∧ atWordEnd rest = true

/-- A subject that is the type itself, though it is read out of the list, ends at a `where`. -/
theorem holdsSubject_of_trim (is_list : IsParameterList list)
    (is_type : isName isNameStart isWord type = true) {gap rest : List Char} {c : Char}
    (left_eq : leftOver list = gap ++ c :: rest) (is_gap : IsGap gap) (solid : isBlank c = false)
    (named : trim (c :: subjectTail c (rest ++ ' ' :: (type ++ " \x7b".toList))) = type) :
    HoldsSubject type list := by
  obtain ⟨-, -, foreign, closed⟩ := is_list.cut
  have words := isWord_of_plainName is_type
  obtain ⟨front, front_eq⟩ : ∃ front, c :: rest = front ++ ['>'] := by
    refine List.getLast?_eq_some_iff.mp ?_
    have last := List.getLast?_eq_some_getLast (List.cons_ne_nil c rest)
    have last' : (leftOver list).getLast? = (c :: rest).getLast? := by
      rw [left_eq, List.getLast?_append_of_ne_nil _ (List.cons_ne_nil c rest)]
    rw [last, closed _ (last'.trans last)]
  generalize behind_eq : ' ' :: (type ++ " \x7b".toList) = behind at named
  obtain ⟨gap', u, whole, blank', ends⟩ := exists_subjectTail c (rest ++ behind)
  obtain ⟨blanks, blank, subject_eq⟩ : ∃ blanks, isAllBlank blanks = true ∧
      c :: subjectTail c (rest ++ behind) = type ++ blanks := by
    rw [trim, trimStart_of_flush (by rintro d ⟨⟩; exact solid)] at named
    obtain ⟨blanks, blank, whole⟩ := exists_trimEnd (c :: subjectTail c (rest ++ behind))
    exact ⟨blanks, blank, named ▸ whole⟩
  have parts : front ++ '>' :: behind = type ++ (blanks ++ gap') ++ u := by
    rw [List.append_cons, ← front_eq, List.cons_append, whole, ← List.cons_append, subject_eq]
    simp only [List.append_assoc]
  -- The bracket that closes the list is in no name and no gap, so it comes after the subject.
  have blanks_all : isAllBlank (blanks ++ gap') = true := isAllBlank_append blank blank'
  have free : '>' ∉ type ++ (blanks ++ gap') := by
    intro mem
    rcases List.mem_append.mp mem with mem | mem
    · cases words _ mem
    · cases isAllBlank_iff.mp blanks_all _ mem
  obtain ⟨w, rfl, rfl⟩ := exists_append_of_not_mem free parts
  have left_w : leftOver list = gap ++ (type ++ ((blanks ++ gap') ++ (w ++ ['>']))) := by
    rw [left_eq, front_eq]
    simp only [List.append_assoc]
  rcases ends with none_ | brace | ⟨r, where_eq, word_end, apart⟩
  · cases (List.append_eq_nil_iff.mp none_).2
  · -- The brace would be in the list, or else the bracket that closes the list.
    cases w with
    | nil => cases brace
    | cons d w =>
      cases brace
      exact absurd (foreign '{' (by rw [left_w]; simp)) (by decide)
  · obtain ⟨rest', rfl, r_eq⟩ := exists_append_of_not_mem (by decide) where_eq
    refine ⟨gap, blanks ++ gap', rest' ++ ['>'], ?_, is_gap, ⟨?_, blanks_all⟩, ?_⟩
    · rw [left_w]
      simp only [List.append_assoc]
    · intro none_
      obtain ⟨rfl, rfl⟩ := List.append_eq_nil_iff.mp none_
      -- Without a blank between them the `where` would go on with the word that the type is.
      have other := apart.resolve_left (not_not_intro rfl)
      rw [words _ ?_] at other
      · cases other
      · rw [← List.append_nil type, ← subject_eq]
        exact List.getLastD_mem_cons
    · rw [r_eq, atWordEnd_append rfl] at word_end
      rwa [atWordEnd_append rfl]

/-- The subject that is read behind a list is the type itself if and only if nothing is left of the list,
or if the type stands in it, in front of a `where`. -/
theorem trim_subject?_iff (is_list : IsParameterList list)
    (is_type : isName isNameStart isWord type = true) :
    (subject? (leftOver list ++ ' ' :: (type ++ " \x7b".toList))).map trim = some type ↔
      '<' ∉ list.tail ∨ HoldsSubject type list := by
  have solid : ∀ d ∈ type, isBlank d = false := fun d mem =>
    isBlank_of_isWord (isWord_of_plainName is_type d mem)
  constructor
  · intro found
    obtain ⟨subject, read, named⟩ := Option.map_eq_some_iff.mp found
    by_cases none_ : leftOver list = []
    · exact .inl (is_list.cut.2.1.mp none_)
    · obtain ⟨gap, c, rest, left_eq, blank, solid, foreign⟩ := is_list.exists_start none_
      by_cases flush : gap = []
      · rw [left_eq, flush, List.nil_append, List.cons_append,
          subject?_of_flush (by rintro d ⟨⟩; exact solid)] at read
        cases read
      · have is_gap : IsGap gap := ⟨flush, blank⟩
        rw [left_eq, List.append_assoc, List.cons_append,
          subject?_append_cons is_gap solid (by rintro rfl; exact foreign (by decide))] at read
        cases read
        exact .inr (holdsSubject_of_trim is_list is_type left_eq is_gap solid named)
  · rintro (flat | ⟨gap, gap', rest, left_eq, is_gap, is_gap', word_end⟩)
    · have ends : ∀ last, endsSubject last " \x7b".toList = true := fun _ => rfl
      have is_gap : IsGap [' '] := ⟨List.cons_ne_nil _ _, rfl⟩
      have read := subject?_of_isName is_gap is_type ends
      rw [is_list.cut.2.1.mpr flat, List.nil_append, ← List.singleton_append, read,
        Option.map_some, trim_of_solid solid]
    · have word_end' : atWordEnd (rest ++ ' ' :: (type ++ " \x7b".toList)) = true := by
        rwa [atWordEnd_append rfl]
      have read := subject?_of_isName is_gap is_type (endsSubject_where is_gap' word_end')
      rw [left_eq]
      simp only [List.append_assoc]
      rw [read, Option.map_some, trim_of_solid solid]

/-- Nothing is read behind a list if and only if something is left of it that does not start with a
blank. -/
theorem subject?_eq_none_iff (is_list : IsParameterList list)
    (is_type : isName isNameStart isWord type = true) :
    subject? (leftOver list ++ ' ' :: (type ++ " \x7b".toList)) = none ↔
      '<' ∈ list.tail ∧ Flush (leftOver list) := by
  by_cases none_ : leftOver list = []
  · have flat := is_list.cut.2.1.mp none_
    refine iff_of_false (fun unread => ?_) fun nested => flat nested.1
    have read := (trim_subject?_iff is_list is_type).mpr (.inl flat)
    rw [unread] at read
    cases read
  · have nested : '<' ∈ list.tail := by
      by_contra flat
      exact none_ (is_list.cut.2.1.mpr flat)
    rw [and_iff_right nested]
    obtain ⟨gap, c, rest, left_eq, blank, solid, foreign⟩ := is_list.exists_start none_
    rw [left_eq, List.append_assoc, List.cons_append]
    cases gap with
    | nil =>
      have flush : ∀ s, Flush ([] ++ c :: s) := by
        rintro s d ⟨⟩
        exact solid
      exact iff_of_true (subject?_of_flush (flush _)) (flush rest)
    | cons d gap =>
      rw [subject?_append_cons ⟨List.cons_ne_nil d gap, blank⟩ solid
        (by rintro rfl; exact foreign (by decide))]
      refine iff_of_false nofun fun flush => ?_
      have first := flush d rfl
      rw [isAllBlank_iff.mp blank d List.mem_cons_self] at first
      cases first

end Implementations

/-! ## Both of them -/

/-- **A header is read behind a list of parameters up to the first bracket that closes.**  A function
is read, under its own name, if and only if there is no list inside its list.  An implementation is
read under the name of its type if and only if there is no list inside its list, or if the list itself
names the type again in front of a `where`; else it is read under what follows the first closing
bracket, or, if that is not set off by a blank, not at all. -/
theorem parameter_list_read_iff {list name type : List Char} (is_list : IsParameterList list)
    (is_name : isName isScriptStart isScriptChar name = true)
    (is_type : isName isNameStart isWord type = true) :
    recognize (some .typeScript) (functionLine name list) =
        scriptFunction.header? (functionLine name list) ∧
      scriptFunction.header? (functionLine name list) =
        (if '<' ∈ list.tail then none else some ⟨.function, String.ofList name, .brace⟩) ∧
      recognize (some .rust) (implLine list type) = rustImpl.header? (implLine list type) ∧
      (recognize (some .rust) (implLine list type) =
          some ⟨.classLike, String.ofList type, .brace⟩ ↔
        '<' ∉ list.tail ∨ HoldsSubject type list) ∧
      (recognize (some .rust) (implLine list type) = none ↔
        '<' ∈ list.tail ∧ Flush (leftOver list)) := by
  have scan := scanImpl_implLine is_list type
  refine ⟨recognize_functionLine is_name list, scriptFunction_header?_eq is_name is_list,
    recognize_implLine list type, ?_, ?_⟩
  · rw [recognize_implLine, rustImpl_header?_iff is_type, scan, Option.map_map,
      ← trim_subject?_iff is_list is_type]
    rfl
  · rw [recognize_implLine, ← subject?_eq_none_iff is_list is_type, rustImpl_header?_eq,
      Option.map_eq_none_iff, scan, Option.map_eq_none_iff]

/-- The list `<K, V>` has no list inside, and both of its lines are read. -/
theorem flat_parameter_list_read :
    IsParameterList "<K, V>".toList ∧
      recognize (some .typeScript) (functionLine "pair".toList "<K, V>".toList) =
        some ⟨.function, "pair", .brace⟩ ∧
      recognize (some .rust) (implLine "<K, V>".toList "Map".toList) =
        some ⟨.classLike, "Map", .brace⟩ := by
  have inner : Balanced ("K, V".toList ++ []) := .append_left (by decide) .nil
  have is_list : IsParameterList "<K, V>".toList := ⟨_, inner, rfl⟩
  have is_name : isName isScriptStart isScriptChar "pair".toList = true := by decide
  have is_type : isName isNameStart isWord "Map".toList = true := by decide
  obtain ⟨tried, function, -, implementation, -⟩ :=
    parameter_list_read_iff is_list is_name is_type
  exact ⟨is_list, (tried.trans function).trans rfl, implementation.mpr (.inl (by decide))⟩

/-- A bound with an argument stands in either list, and neither of the lines is read. -/
theorem nested_parameter_list_not_read :
    (IsParameterList "<T: Into<U>>".toList ∧
      recognize (some .rust) (implLine "<T: Into<U>>".toList "Foo".toList) = none) ∧
    IsParameterList "<T extends Array<U>>".toList ∧
      recognize (some .typeScript) (functionLine "f".toList "<T extends Array<U>>".toList) =
        none := by
  have argument : Balanced ('<' :: (['U'] ++ ['>'])) :=
    .list ['U'] (.other 'U' (by decide) .nil) .nil
  have inner : Balanced ("T: Into".toList ++ '<' :: (['U'] ++ ['>'])) :=
    argument.append_left (by decide)
  have inner' : Balanced ("T extends Array".toList ++ '<' :: (['U'] ++ ['>'])) :=
    argument.append_left (by decide)
  exact ⟨⟨⟨_, inner, rfl⟩, rfl⟩, ⟨_, inner', rfl⟩,
    (recognize_functionLine (by decide) _).trans rfl⟩

/-- With a blank behind the inner list, the rest of the outer list is taken for a part of the name. -/
example : recognize (some .rust) (implLine "<T: Into<U> + Copy>".toList "Foo".toList) =
    some ⟨.classLike, "+ Copy> Foo", .brace⟩ := rfl

end Header
end CodeGloss
