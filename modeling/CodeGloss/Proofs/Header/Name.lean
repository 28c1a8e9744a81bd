import CodeGloss.Header.Recognition
import Mathlib.Data.List.Infix
import Mathlib.Data.List.TakeWhile

/-!
# Names stand on their lines

Every step of a header rule leaves an end of the line that it was given (`after?_suffix` and the
lemmas that follow it), and every name is read from where such an end begins, or is what an end of a
beginning of the line leaves.  So the name that a rule reads stands on the line as it is
(`infix_of_scan`), whatever characters it is made of, and so does what is left of it when its blanks
are taken off.

A definition whose name stands nowhere on the line of its header has none
(`Header.infix_of_recognize`).
-/

namespace CodeGloss

namespace Text

theorem trimStart_suffix (s : List Char) : trimStart s <:+ s :=
  List.dropWhile_suffix _

theorem prefix_trimEnd (s : List Char) : trimEnd s <+: s := by
  have backwards : s.reverse.dropWhile isBlank <:+ s.reverse := List.dropWhile_suffix _
  rw [← List.reverse_prefix, List.reverse_reverse] at backwards
  exact backwards

theorem infix_trim (s : List Char) : trim s <:+: s :=
  (prefix_trimEnd (trimStart s)).isInfix.trans (trimStart_suffix s).isInfix

end Text

namespace Header

open Scanner Text

/-! ## Steps leave an end of the line -/

section Steps

variable {s t line : List Char} {words : List String} {word : String}

/-- A step that may be left out. -/
theorem getD_suffix {step : Option (List Char)} (left : ∀ t, step = some t → t <:+ s) :
    step.getD s <:+ s := by
  cases step with
  | none => exact List.suffix_rfl
  | some t => exact left t rfl

theorem after?_suffix (found : after? word s = some t) : t <:+ s := by
  unfold after? at found
  split at found
  · cases found
    exact List.drop_suffix _ _
  · cases found

theorem afterFirst?_suffix {c : Char} (found : afterFirst? c s = some t) : t <:+ s := by
  unfold afterFirst? at found
  split at found
  next => cases found
  next d rest left =>
    cases found
    have whole : d :: t <:+ s := left ▸ List.dropWhile_suffix _
    exact (List.suffix_cons d t).trans whole

theorem afterBlanks?_suffix (found : afterBlanks? s = some t) : t <:+ s := by
  unfold afterBlanks? at found
  split at found
  next => cases found
  next c rest =>
    split at found
    · cases found
      exact (trimStart_suffix rest).trans (List.suffix_cons c rest)
    · cases found

theorem afterWord?_suffix (found : afterWord? word s = some t) : t <:+ s := by
  obtain ⟨rest, after, blanks⟩ := Option.bind_eq_some_iff.mp found
  exact (afterBlanks?_suffix blanks).trans (after?_suffix after)

theorem skipWord_suffix (word : String) (s : List Char) : skipWord word s <:+ s :=
  getD_suffix fun _ => afterWord?_suffix

theorem skipWords_suffix (words : List String) (s : List Char) : skipWords words s <:+ s := by
  induction words generalizing s with
  | nil => exact List.suffix_rfl
  | cons word rest ih => exact (ih (skipWord word s)).trans (skipWord_suffix word s)

theorem skipGroup?_suffix {opening closing : Char} (found : skipGroup? opening closing s = some t) :
    t <:+ s := by
  unfold skipGroup? at found
  split at found
  next =>
    cases found
    exact List.suffix_rfl
  next c rest =>
    split at found
    · exact (afterFirst?_suffix found).trans (List.suffix_cons c rest)
    · cases found
      exact List.suffix_rfl

theorem afterAnyWord?_suffix (found : afterAnyWord? words s = some t) : t <:+ s := by
  obtain ⟨word, -, after⟩ := List.exists_of_findSome?_eq_some found
  exact afterWord?_suffix after

theorem suffix_of_mem_afterModifiers {fewer : List (List Char)}
    (mem : t ∈ afterModifiers words s fewer) : t <:+ s ∨ t ∈ fewer := by
  fun_induction afterModifiers words s fewer with
  | case1 s fewer rest found ih =>
    rcases ih mem with shorter | before
    · exact .inl (shorter.trans (afterAnyWord?_suffix found))
    · rcases List.mem_cons.mp before with rfl | before
      · exact .inl List.suffix_rfl
      · exact .inr before
  | case2 s fewer none_ =>
    rcases List.mem_cons.mp mem with rfl | before
    · exact .inl List.suffix_rfl
    · exact .inr before

theorem suffix_of_mem_modifiers (mem : t ∈ afterModifiers words s []) : t <:+ s :=
  (suffix_of_mem_afterModifiers mem).resolve_right List.not_mem_nil

theorem skipVisibility_suffix (s : List Char) : skipVisibility s <:+ s := by
  refine getD_suffix fun t found => ?_
  simp only [Option.bind_eq_bind, Option.bind_eq_some_iff] at found
  obtain ⟨_, word, _, group, blanks⟩ := found
  exact (afterBlanks?_suffix blanks).trans ((skipGroup?_suffix group).trans (after?_suffix word))

theorem skipExtern_suffix (s : List Char) : skipExtern s <:+ s := by
  refine getD_suffix fun t found => ?_
  simp only [Option.bind_eq_bind, Option.bind_eq_some_iff] at found
  obtain ⟨_, word, _, opening, _, closing, blanks⟩ := found
  exact (afterBlanks?_suffix blanks).trans ((afterFirst?_suffix closing).trans
    ((after?_suffix opening).trans (afterWord?_suffix word)))

theorem skipClassModifiers_suffix (s : List Char) : skipClassModifiers s <:+ s := by
  unfold skipClassModifiers
  cases left : afterModifiers classModifiers s [] with
  | nil => exact List.suffix_rfl
  | cons t _ => exact suffix_of_mem_modifiers (left ▸ List.mem_cons_self)

end Steps

/-! ## Names are read from where an end begins -/

section Names

variable {s t name : List Char}

/-- A name and what follows it make up what it was read from. -/
theorem append_of_name? {first other : Char → Bool} (found : name? first other s = some (name, t)) :
    name ++ t = s := by
  unfold name? at found
  split at found
  next => cases found
  next c rest =>
    split at found
    · cases found
      rw [List.cons_append, List.takeWhile_append_dropWhile]
    · cases found

theorem infix_of_name? {first other : Char → Bool} {line : List Char}
    (found : name? first other s = some (name, t)) (suffix : s <:+ line) : name <:+: line :=
  (append_of_name? found ▸ List.prefix_append name t).isInfix.trans suffix.isInfix

theorem prefix_of_classNameTail? (found : classNameTail? s = some name) : name <+: s := by
  induction s generalizing name with
  | nil =>
    cases found
    exact List.prefix_rfl
  | cons c rest ih =>
    rw [classNameTail?] at found
    split at found
    · split at found
      next tail longer =>
        cases found
        exact List.cons_prefix_cons.mpr ⟨rfl, ih longer⟩
      next =>
        split at found
        · cases found
          exact List.nil_prefix
        · cases found
    · split at found
      · cases found
        exact List.nil_prefix
      · cases found

theorem prefix_of_className? (found : className? s = some name) : name <+: s := by
  unfold className? at found
  split at found
  next => cases found
  next c rest =>
    split at found
    · obtain ⟨tail, longer, rfl⟩ := Option.map_eq_some_iff.mp found
      exact List.cons_prefix_cons.mpr ⟨rfl, prefix_of_classNameTail? longer⟩
    · cases found

theorem prefix_subjectTail (last : Char) (s : List Char) : subjectTail last s <+: s := by
  induction s generalizing last with
  | nil => exact List.prefix_rfl
  | cons c rest ih =>
    rw [subjectTail]
    split
    · exact List.nil_prefix
    · exact List.cons_prefix_cons.mpr ⟨rfl, ih c⟩

/-- The last of some blanks. -/
theorem infix_of_getLast? (found : (s.takeWhile isBlank).tail.getLast?.map ([·]) = some name) :
    name <:+: s := by
  obtain ⟨c, last, rfl⟩ := Option.map_eq_some_iff.mp found
  have mem := List.mem_of_mem_tail (List.mem_of_getLast? last)
  exact (List.singleton_infix_iff _ _).mpr ((List.takeWhile_sublist isBlank).mem mem)

theorem infix_of_subject? (found : subject? s = some name) : name <:+: s := by
  simp only [subject?, Option.bind_eq_bind, Option.bind_eq_some_iff] at found
  obtain ⟨rest, blanks, found⟩ := found
  split at found
  · exact infix_of_getLast? found
  · exact infix_of_getLast? found
  next c tail _ =>
    cases found
    have start : c :: subjectTail c tail <+: c :: tail :=
      List.cons_prefix_cons.mpr ⟨rfl, prefix_subjectTail c tail⟩
    exact start.isInfix.trans (afterBlanks?_suffix blanks).isInfix

/-- The name that a text ends with, and the text before it, make up the text. -/
theorem append_of_lastName? (found : lastName? s = some (name, t)) : t ++ name = s := by
  have pieces :
      (s.reverse.dropWhile isWord).reverse ++ (s.reverse.takeWhile isWord).reverse = s := by
    rw [← List.reverse_append, List.takeWhile_append_dropWhile, List.reverse_reverse]
  simp only [lastName?] at found
  split at found
  next before left =>
    cases found
    rw [left, List.reverse_cons, List.append_assoc] at pieces
    exact pieces
  next =>
    split at found
    · cases found
      exact pieces
    · cases found

end Names

/-! ## Every rule -/

section Rules

variable {line : Line} {capture : Capture}

theorem infix_of_scanDef (found : scanDef line = some capture) : capture.name <:+: line := by
  simp only [scanDef, Option.bind_eq_bind, Option.bind_eq_some_iff] at found
  obtain ⟨_, word, ⟨name, rest⟩, named, found⟩ := found
  split at found
  · cases found
    exact infix_of_name? named
      ((afterWord?_suffix word).trans ((skipWord_suffix _ _).trans (trimStart_suffix line)))
  · cases found

theorem infix_of_scanIndentedClass (found : scanIndentedClass line = some capture) :
    capture.name <:+: line := by
  simp only [scanIndentedClass, Option.bind_eq_bind, Option.bind_eq_some_iff] at found
  obtain ⟨_, word, ⟨name, rest⟩, named, found⟩ := found
  have stands := infix_of_name? named ((afterWord?_suffix word).trans (trimStart_suffix line))
  split at found
  · cases found
    exact stands
  · cases found
    exact stands
  · cases found

theorem infix_of_scanFunction (found : scanFunction line = some capture) :
    capture.name <:+: line := by
  simp only [scanFunction, Option.bind_eq_bind, Option.bind_eq_some_iff] at found
  obtain ⟨s, word, found⟩ := found
  split at found
  · cases found
  · simp only [Option.bind_eq_some_iff] at found
    obtain ⟨_, _, found⟩ := found
    split at found
    · cases found
      have start : s <:+ line :=
        (after?_suffix word).trans ((skipWords_suffix _ _).trans (trimStart_suffix line))
      have star : (after? "*" (trimStart s)).getD (trimStart s) <:+ trimStart s :=
        getD_suffix fun _ => after?_suffix
      have left := (trimStart_suffix _).trans (star.trans ((trimStart_suffix s).trans start))
      cases named : scriptName? (trimStart ((after? "*" (trimStart s)).getD (trimStart s))) with
      | none => exact List.nil_infix
      | some pair => exact infix_of_name? named left
    · cases found

theorem infix_of_scanClass (found : scanClass line = some capture) : capture.name <:+: line := by
  simp only [scanClass, Option.bind_eq_bind, Option.bind_eq_some_iff] at found
  obtain ⟨s, word, found⟩ := found
  split at found
  · cases found
  · split at found
    next name named =>
      cases found
      obtain ⟨t, blanks, named⟩ := Option.bind_eq_some_iff.mp named
      have left : t <:+ line := (afterBlanks?_suffix blanks).trans ((after?_suffix word).trans
        ((skipClassModifiers_suffix _).trans ((skipWords_suffix _ _).trans (trimStart_suffix line))))
      exact (prefix_of_className? named).isInfix.trans left.isInfix
    next =>
      split at found
      · cases found
        exact List.nil_infix
      · cases found

theorem infix_of_scanBinding (found : scanBinding line = some capture) :
    capture.name <:+: line := by
  simp only [scanBinding, Option.bind_eq_bind, Option.bind_eq_some_iff] at found
  obtain ⟨_, word, ⟨name, rest⟩, named, _, _, found⟩ := found
  split at found
  · cases found
    exact infix_of_name? named
      ((afterAnyWord?_suffix word).trans ((skipWord_suffix _ _).trans (trimStart_suffix line)))
  · cases found

theorem infix_of_scanFn (found : scanFn line = some capture) : capture.name <:+: line := by
  simp only [scanFn, Option.bind_eq_bind, Option.bind_eq_some_iff] at found
  obtain ⟨_, word, ⟨name, rest⟩, named, found⟩ := found
  cases found
  exact infix_of_name? named ((afterWord?_suffix word).trans ((skipExtern_suffix _).trans
    ((skipWords_suffix _ _).trans ((skipVisibility_suffix _).trans (trimStart_suffix line)))))

theorem infix_of_scanType (found : scanType line = some capture) : capture.name <:+: line := by
  simp only [scanType, Option.bind_eq_bind, Option.bind_eq_some_iff] at found
  obtain ⟨_, word, ⟨name, rest⟩, named, found⟩ := found
  cases found
  exact infix_of_name? named ((afterAnyWord?_suffix word).trans
    ((skipWord_suffix _ _).trans ((skipVisibility_suffix _).trans (trimStart_suffix line))))

theorem infix_of_scanImpl (found : scanImpl line = some capture) : capture.name <:+: line := by
  simp only [scanImpl, Option.bind_eq_bind, Option.bind_eq_some_iff] at found
  obtain ⟨_, word, _, group, name, subject, found⟩ := found
  cases found
  exact (infix_of_subject? subject).trans ((skipGroup?_suffix group).trans
    ((after?_suffix word).trans ((skipWord_suffix _ _).trans (trimStart_suffix line)))).isInfix

theorem infix_of_scanFunc (found : scanFunc line = some capture) : capture.name <:+: line := by
  simp only [scanFunc, Option.bind_eq_bind, Option.bind_eq_some_iff] at found
  obtain ⟨_, word, _, receiver, ⟨name, rest⟩, named, _, _, found⟩ := found
  split at found
  · cases found
    exact infix_of_name? named ((trimStart_suffix _).trans ((skipGroup?_suffix receiver).trans
      ((trimStart_suffix _).trans ((after?_suffix word).trans (trimStart_suffix line)))))
  · cases found

/-- What comes before the parenthesis is a beginning of the line, and the name is the end of it. -/
theorem infix_of_scanTyped (found : scanTyped line = some capture) : capture.name <:+: line := by
  unfold scanTyped at found
  split at found
  · cases found
  · simp only [Option.bind_eq_bind, Option.bind_eq_some_iff] at found
    obtain ⟨⟨name, before⟩, named, _, _, _, _, found⟩ := found
    cases found
    have start : trimEnd (line.takeWhile (· != '(')) <+: line :=
      (prefix_trimEnd _).trans (List.takeWhile_prefix _)
    exact (append_of_lastName? named ▸ List.suffix_append _ _).isInfix.trans start.isInfix

theorem infix_of_scanMethod (found : scanMethod line = some capture) : capture.name <:+: line := by
  obtain ⟨s, mem, found⟩ := List.exists_of_findSome?_eq_some found
  simp only [scanMethodName, Option.bind_eq_bind, Option.bind_eq_some_iff] at found
  obtain ⟨⟨name, rest⟩, named, _, _, _, _, found⟩ := found
  split at found
  · cases found
    have star : (after? "*" s).getD s <:+ s := getD_suffix fun _ => after?_suffix
    exact infix_of_name? named
      (star.trans ((suffix_of_mem_modifiers mem).trans (trimStart_suffix line)))
  · cases found

/-- **The name that a rule reads stands on the line.** -/
theorem infix_of_scan {rule : Rule} (mem : rule ∈ rules) (found : rule.scan line = some capture) :
    capture.name <:+: line := by
  simp only [rules, List.mem_cons, List.not_mem_nil, or_false] at mem
  rcases mem with rfl | rfl | rfl | rfl | rfl | rfl | rfl | rfl | rfl | rfl | rfl
  · exact infix_of_scanDef found
  · exact infix_of_scanIndentedClass found
  · exact infix_of_scanFunction found
  · exact infix_of_scanClass found
  · exact infix_of_scanBinding found
  · exact infix_of_scanFn found
  · exact infix_of_scanType found
  · exact infix_of_scanImpl found
  · exact infix_of_scanFunc found
  · exact infix_of_scanTyped found
  · exact infix_of_scanMethod found

end Rules

/-- **The name of a header stands on its line**, unless the header has no name. -/
theorem infix_of_recognize {hint : Hint} {line : Line} {h : Header}
    (found : recognize hint line = some h) :
    h.name = Definition.anonymous ∨ h.name.toList <:+: line := by
  obtain ⟨rule, mem, found⟩ := List.exists_of_findSome?_eq_some found
  unfold Rule.header? at found
  split at found
  next => cases found
  next capture read =>
    split at found
    · cases found
    · cases found
      split
      · exact .inl rfl
      · right
        rw [String.toList_ofList]
        exact (infix_trim capture.name).trans (infix_of_scan (List.mem_filter.mp mem).1 read)

end Header
end CodeGloss
