import CodeGloss.Header.Recognition
import CodeGloss.Proofs.Header.Matching
import CodeGloss.Proofs.Header.Name

/-!
# Patterns of classes and of scripts

The head of a class may start with the name of the class, or go on at once with what it derives from.
Its scanner looks for the last place where a name may end; the pattern reads as long a name as it can
and gives characters back until the head ends.  Functions and bindings of scripts are read without
going back, and methods as well: where a modifier could be the name of the method, the scanner tries
the places behind the modifiers in the order of the pattern.

* `scanClass_eq`: classes.
* `scanFunction_eq`, `scanMethod_eq`, `scanBinding_eq`: functions, methods and bindings of scripts.
* `first_many_className`: the longest name that the rest of the head can follow is read.
-/

namespace CodeGloss
namespace Header

open Scanner Text Pattern

variable {line : List Char} {s : Cursor} {k : Cursor → Option Capture}

theorem isBlank_eq_false_of_isScriptChar {c : Char} (char : isScriptChar c = true) :
    isBlank c = false := by
  rw [isScriptChar, Bool.or_eq_true] at char
  rcases char with word | dollar
  · exact isBlank_of_isWord word
  · rw [beq_iff_eq.mp dollar]
    rfl

theorem isScriptChar_of_isScriptStart {c : Char} (start : isScriptStart c = true) :
    isScriptChar c = true := by
  rw [isScriptStart, Bool.or_eq_true] at start
  rw [isScriptChar, Bool.or_eq_true]
  exact start.imp_left isWord_of_isNameStart

theorem isBlank_eq_false_of_isScriptStart {c : Char} (start : isScriptStart c = true) :
    isBlank c = false :=
  isBlank_eq_false_of_isScriptChar (isScriptChar_of_isScriptStart start)

theorem isScriptChar_eq_false_of_isBlank {c : Char} (blank : isBlank c = true) :
    isScriptChar c = false := by
  refine Bool.eq_false_iff.mpr fun char => ?_
  rw [isBlank_eq_false_of_isScriptChar char] at blank
  cases blank

/-! ## Classes -/

section Classes

variable {front init rest : List Char}

/-- The end of the head of a class. -/
theorem first_headEnd (suffix : s.rest <:+ line) :
    (headEnd.first line s fun s => some s.capture) =
      if endsClassHead s.rest then some s.capture else none := by
  have char_eq : ∀ c, ((char c).first line s fun s => some s.capture) =
      if s.rest.head? == some c then some s.capture else none := fun c => first_char c
  simp only [headEnd, anyOf, all, List.foldr_cons, List.foldr_nil, first_either, first_seq,
    first_nothing]
  rw [char_eq, char_eq, char_eq, first_word_end suffix rfl rfl, first_word_end suffix rfl rfl,
    first_ending, first_none, Option.or_none, ite_or_ite, ite_or_ite, ite_or_ite, ite_or_ite,
    ite_or_ite]
  cases s.rest with
  | nil => rfl
  | cons c t =>
    rw [endsClassHead]
    simp only [List.head?_cons, Option.some_beq_some, List.isEmpty_cons, Bool.false_or,
      Bool.or_assoc, Bool.or_comm, Bool.or_left_comm]

theorem refuses_headEnd : Refuses (fun s => headEnd.first line s k) isBlank := by
  have word : ∀ w : String, (w.toList.head?.any fun c => !isBlank c) = true →
      Refuses (fun s => (all [text w, edge]).first line s k) isBlank :=
    fun w start s c first inside => (first_seq _ _).trans (refuses_text start s c first inside)
  exact refuses_either (refuses_char rfl) (refuses_either (word _ rfl) (refuses_either (word _ rfl)
    (refuses_either (refuses_char rfl) (refuses_either (refuses_char rfl)
      (refuses_either refuses_ending (refuses_one nofun))))))

/-- What comes of a place behind the name of a class that is read from another place on. -/
def behindClassName (line : List Char) (s s' : Cursor) : Option Capture :=
  blanks.first line { s' with capture := { s'.capture with name := s.between s' } } fun s =>
    headEnd.first line s fun s => some s.capture

theorem first_blanks_headEnd (suffix : s.rest <:+ line) :
    (blanks.first line s fun s => headEnd.first line s fun s => some s.capture) =
      if endsClassHead (trimStart s.rest) then some s.capture else none := by
  rw [first_blanks refuses_headEnd, first_headEnd]
  · rfl
  · exact (trimStart_suffix s.rest).trans suffix

theorem behindClassName_eq (suffix : s.rest <:+ line) (read : s.rest = init ++ rest) :
    behindClassName line s (s.leaving rest) =
      if endsClassHead (trimStart rest) then some { s.capture with name := init } else none := by
  rw [behindClassName, between_leaving read]
  exact first_blanks_headEnd (List.IsSuffix.trans ⟨init, read.symm⟩ suffix)

/-- The longest name that leads on is read. -/
theorem first_many_className (suffix : s.rest <:+ line) (read : s.rest = init ++ rest) :
    (many (one isScriptChar)).first line (s.leaving rest) (behindClassName line s) =
      (classNameTail? rest).map fun tail => { s.capture with name := init ++ tail } := by
  induction rest generalizing init with
  | nil =>
    rw [first_many_one_nil rfl, behindClassName_eq suffix read, classNameTail?, Option.map_some,
      List.append_nil]
    rfl
  | cons c rest ih =>
    rw [first_many_one_cons rfl, behindClassName_eq suffix read, classNameTail?]
    split
    next char =>
      have read' : s.rest = (init ++ [c]) ++ rest := by
        rw [read, List.append_assoc, List.singleton_append]
      have longer := ih read'
      refine (congrArg (Option.or · _) longer).trans ?_
      have flush : Flush (c :: rest) := by
        rintro d ⟨⟩
        exact isBlank_eq_false_of_isScriptChar char
      rw [trimStart_of_flush flush]
      cases classNameTail? rest with
      | none =>
        dsimp only [Option.map_none, Option.none_or]
        split
        · rw [Option.map_some, List.append_nil]
        · rfl
      | some tail =>
        dsimp only [Option.map_some, Option.some_or]
        rw [List.append_assoc, List.singleton_append]
    next =>
      split
      · rw [Option.map_some, List.append_nil]
      · rfl

theorem first_className (suffix : s.rest <:+ line) :
    ((Pattern.name (word isScriptStart isScriptChar)).first line s fun s =>
      blanks.first line s fun s => headEnd.first line s fun s => some s.capture) =
      (className? s.rest).map fun name => { s.capture with name } := by
  rw [first_name, word, first_seq]
  cases rest_eq : s.rest with
  | nil => exact first_one_nil rest_eq
  | cons c rest =>
    rw [first_one_cons rest_eq, className?]
    split
    · have read : s.rest = [c] ++ rest := rest_eq
      refine (first_many_className suffix read).trans ?_
      rw [Option.map_map]
      rfl
    · rfl

/-- Behind the word `class` there is a name, or else the head of the class ends. -/
theorem first_optional_className (suffix : s.rest <:+ line) :
    ((optional (all [gap, Pattern.name (word isScriptStart isScriptChar)])).first line s fun s =>
      blanks.first line s fun s => headEnd.first line s fun s => some s.capture) =
      match (afterBlanks? s.rest).bind className? with
      | some name => some { s.capture with name }
      | none => if endsClassHead (trimStart s.rest) then some s.capture else none := by
  have named : ((all [gap, Pattern.name (word isScriptStart isScriptChar)]).first line s fun s =>
      blanks.first line s fun s => headEnd.first line s fun s => some s.capture) =
      ((afterBlanks? s.rest).bind className?).map fun name => { s.capture with name } := by
    simp only [all, List.foldr_cons, List.foldr_nil, first_seq, first_nothing]
    rw [first_gap (refuses_name_word fun _ => isBlank_eq_false_of_isScriptStart), Option.map_bind]
    refine Option.bind_congr fun t found => ?_
    exact first_className ((afterBlanks?_suffix found).trans suffix)
  rw [first_optional, named, first_blanks_headEnd suffix]
  cases (afterBlanks? s.rest).bind className? with
  | none => rfl
  | some name => rfl

end Classes

/-- Classes are found where their pattern is. -/
theorem scanClass_eq (line : Line) : scanClass line = braceClass.pattern.find? line := by
  have whole : braceClass.pattern.find? line =
      blanks.first line { rest := line } (skipping line ["export", "default"] fun s =>
        (many (anyApart classModifiers)).first line s fun s => (text "class").first line s fun s =>
          edge.first line s fun s =>
            (optional (all [gap, Pattern.name (word isScriptStart isScriptChar)])).first
              line s fun s => blanks.first line s fun s => headEnd.first line s fun s =>
                some s.capture) := by
    simp only [find?_eq_first, braceClass, all, List.foldr_cons, List.foldr_nil, first_seq,
      first_nothing]
    rfl
  rw [whole, first_blanks (refuses_skipping rfl (refuses_modifiers rfl (refuses_text rfl))),
    first_skipping (by decide) rfl (refuses_modifiers rfl (refuses_text rfl))
      (refuses_modifiers rfl (refuses_text rfl)),
    first_all_modifiers rfl (refuses_text rfl) (refuses_text rfl)]
  have start_suffix : skipClassModifiers (skipWords ["export", "default"] (trimStart line)) <:+ line :=
    (skipClassModifiers_suffix _).trans ((skipWords_suffix _ _).trans (trimStart_suffix line))
  refine Eq.trans ?_ (first_text_edge start_suffix rfl rfl).symm
  refine Option.bind_congr fun s found => ?_
  have suffix := (after?_suffix found).trans start_suffix
  cases atWordEnd s with
  | false => rfl
  | true => exact (first_optional_className (s := { rest := s }) suffix).symm

/-! ## Functions of scripts -/

section Function

/-- Whether blanks in front of a text do not matter. -/
def IgnoresBlanks (k : Cursor → Option Capture) : Prop :=
  ∀ s, k (s.leaving (trimStart s.rest)) = k s

theorem ignoresBlanks_blanks
    (all_ : ∀ s, blanks.first line s k = k (s.leaving (trimStart s.rest))) :
    IgnoresBlanks fun s => blanks.first line s k := by
  intro s
  refine (all_ _).trans (Eq.trans ?_ (all_ s).symm)
  rw [Cursor.rest_leaving, trimStart_of_flush (flush_trimStart s.rest)]
  rfl

/-- Blanks on both sides of something that may be left out. -/
theorem first_blanks_optional {p : Pattern} (solid : Refuses (fun s => p.first line s k) isBlank)
    (ignores : IgnoresBlanks k) (apart_ : ∀ s, p.first line s k = none ∨ k s = none) :
    (blanks.first line s fun s => (optional p).first line s k) =
      (optional p).first line (s.leaving (trimStart s.rest)) k := by
  refine first_many_one_of_best fun c t blank => ?_
  have refused : p.first line (s.leaving (c :: t)) k = none := solid _ c rfl blank
  have here : (optional p).first line (s.leaving (c :: t)) k =
      k (s.leaving (t.dropWhile isBlank)) := by
    rw [first_optional, refused, Option.none_or, ← ignores, Cursor.rest_leaving, trimStart,
      List.dropWhile_cons, if_pos blank]
    rfl
  rw [here, first_optional]
  rcases apart_ (s.leaving (t.dropWhile isBlank)) with none_ | none_
  · right
    rw [none_, Option.none_or]
  · exact .inl none_

/-- What is read along a pattern and what follows it start with different characters. -/
theorem apart_of_refuses {p : Pattern} {f : Char → Bool}
    (reads : Refuses (fun s => p.first line s k) fun c => !f c)
    (some_ : ∀ s : Cursor, s.rest = [] → p.first line s k = none) (behind : Refuses k f) :
    ∀ s, p.first line s k = none ∨ k s = none := by
  intro s
  cases rest_eq : s.rest with
  | nil => exact .inl (some_ s rest_eq)
  | cons c t =>
    have first : c ∈ s.rest.head? := by rw [rest_eq]; rfl
    cases inside : f c with
    | true => exact .inr (behind s c first inside)
    | false => exact .inl (reads s c first (congrArg not inside))

/-- The opening parenthesis, behind blanks. -/
def fromParameters (line : List Char) (s : Cursor) : Option Capture :=
  blanks.first line s fun s => (char '(').first line s fun s => some s.capture

theorem ignoresBlanks_fromParameters : IgnoresBlanks (fromParameters line) :=
  ignoresBlanks_blanks fun _ => first_blanks (refuses_char rfl)

theorem fromParameters_eq (s : Cursor) :
    fromParameters line s =
      if (trimStart s.rest).head? == some '(' then some s.capture else none := by
  rw [fromParameters, first_blanks (refuses_char rfl), first_char]
  rfl

theorem refuses_fromParameters {f : Char → Bool} (blank : ∀ c, isBlank c = true → f c = false)
    (round : f '(' = false) : Refuses (fromParameters line) f :=
  refuses_blanks blank (refuses_char round)

/-- Type parameters that may be left out, behind blanks. -/
def fromGenerics (line : List Char) (s : Cursor) : Option Capture :=
  blanks.first line s fun s => (optional (group '<' '>')).first line s (fromParameters line)

theorem fromGenerics_eq_first (s : Cursor) : fromGenerics line s =
    (optional (group '<' '>')).first line (s.leaving (trimStart s.rest)) (fromParameters line) := by
  have behind : Refuses (fromParameters line) (· == '<') :=
    refuses_fromParameters (beq_eq_false_of_isBlank rfl) rfl
  refine first_blanks_optional (refuses_group rfl) ignoresBlanks_fromParameters
    (apart_of_refuses (refuses_group rfl) (fun s none_ => ?_) behind)
  rw [first_group, none_]
  rfl

theorem fromGenerics_eq (s : Cursor) :
    fromGenerics line s =
      (skipGroup? '<' '>' (trimStart s.rest)).bind fun t => fromParameters line (s.leaving t) := by
  rw [fromGenerics_eq_first,
    first_optional_group (refuses_fromParameters (beq_eq_false_of_isBlank rfl) rfl)]
  rfl

theorem refuses_fromGenerics {f : Char → Bool} (blank : ∀ c, isBlank c = true → f c = false)
    (angle : f '<' = false) (round : f '(' = false) : Refuses (fromGenerics line) f :=
  refuses_blanks blank
    (refuses_optional (refuses_group angle) (refuses_fromParameters blank round))

/-- A name that may be left out, behind blanks. -/
def fromName (line : List Char) (s : Cursor) : Option Capture :=
  blanks.first line s fun s =>
    (optional (Pattern.name (word isScriptStart isScriptChar))).first line s (fromGenerics line)

theorem fromName_eq_first (s : Cursor) : fromName line s =
    (optional (Pattern.name (word isScriptStart isScriptChar))).first line
      (s.leaving (trimStart s.rest)) (fromGenerics line) := by
  have behind : Refuses (fromGenerics line) isScriptStart := by
    refine refuses_fromGenerics (fun c blank => Bool.eq_false_iff.mpr fun start => ?_) rfl rfl
    rw [isBlank_eq_false_of_isScriptStart start] at blank
    cases blank
  refine first_blanks_optional (refuses_name_word fun _ => isBlank_eq_false_of_isScriptStart)
    (ignoresBlanks_blanks fromGenerics_eq_first)
    (apart_of_refuses (refuses_name_word fun c start => ?_) (fun s none_ => ?_) behind)
  · rw [start, Bool.not_true]
  · rw [first_name, word, first_seq, first_one_nil none_]

theorem fromName_eq (s : Cursor) :
    fromName line s =
      match scriptName? (trimStart s.rest) with
      | some (name, t) => fromGenerics line { rest := t, capture := { s.capture with name } }
      | none => fromGenerics line (s.leaving (trimStart s.rest)) := by
  have behind : Refuses (fromGenerics line) isScriptChar :=
    refuses_fromGenerics (fun _ => isScriptChar_eq_false_of_isBlank) rfl rfl
  rw [fromName_eq_first, first_optional, first_name_word behind, Cursor.rest_leaving]
  change ((scriptName? (trimStart s.rest)).bind _).or _ = _
  cases found : scriptName? (trimStart s.rest) with
  | none => rfl
  | some read =>
    -- Without the name there is no parenthesis where it starts.
    have none_ : fromGenerics line (s.leaving (trimStart s.rest)) = none := by
      obtain ⟨is, -, whole⟩ := name?_eq_some_iff.mp found
      obtain ⟨c, rest, name_eq, start, -⟩ := isName_iff.mp is
      refine behind _ c ?_ (isScriptChar_of_isScriptStart start)
      rw [Cursor.rest_leaving, whole, name_eq]
      rfl
    rw [none_, Option.or_none]
    rfl

theorem refuses_fromName {f : Char → Bool} (blank : ∀ c, isBlank c = true → f c = false)
    (start : ∀ c, isScriptStart c = true → f c = false) (angle : f '<' = false)
    (round : f '(' = false) : Refuses (fromName line) f :=
  refuses_blanks blank
    (refuses_optional (refuses_name_word start) (refuses_fromGenerics blank angle round))

/-- A star that may be left out, behind blanks. -/
theorem first_star (s : Cursor) :
    (blanks.first line s fun s => (optional (char '*')).first line s (fromName line)) =
      fromName line
        (s.leaving ((after? "*" (trimStart s.rest)).getD (trimStart s.rest))) := by
  have behind : Refuses (fromName line) (· == '*') :=
    refuses_fromName (beq_eq_false_of_isBlank rfl) (fun c start => ?_) rfl rfl
  · have star : "*".toList = ['*'] := rfl
    have ignores : IgnoresBlanks (fromName line) := ignoresBlanks_blanks fromName_eq_first
    have apart_ : ∀ s, (char '*').first line s (fromName line) = none ∨ fromName line s = none :=
      apart_of_refuses (refuses_char rfl) (fun s none_ => first_one_nil none_) behind
    rw [first_blanks_optional (refuses_char rfl) ignores apart_,
      first_optional_of_step (first_char_of_toList star) fun t found => ?_]
    · rfl
    · exact eq_none_of_after? rfl behind found
  · refine beq_eq_false_iff_ne.mpr ?_
    rintro rfl
    cases start

end Function

/-- Function declarations are found where their pattern is. -/
theorem scanFunction_eq (line : Line) : scanFunction line = scriptFunction.pattern.find? line := by
  have whole : scriptFunction.pattern.find? line =
      blanks.first line { rest := line } (skipping line ["export", "default", "async"] fun s =>
        (text "function").first line s fun s => edge.first line s fun s =>
          blanks.first line s fun s => (optional (char '*')).first line s (fromName line)) := by
    simp only [find?_eq_first, scriptFunction, all, List.foldr_cons, List.foldr_nil, first_seq,
      first_nothing]
    rfl
  have suffix : skipWords ["export", "default", "async"] (trimStart line) <:+ line :=
    (skipWords_suffix _ _).trans (trimStart_suffix line)
  rw [whole, first_blanks (refuses_skipping rfl (refuses_text rfl)),
    first_skipping (by decide) rfl (refuses_text rfl) (refuses_text rfl)]
  refine Eq.trans ?_ (first_text_edge suffix rfl rfl).symm
  refine Option.bind_congr fun s _ => ?_
  cases atWordEnd s with
  | false => rfl
  | true =>
    rw [if_pos rfl, first_star, fromName_eq]
    simp only [Cursor.rest_leaving, fromGenerics_eq, fromParameters_eq]
    cases scriptName? (trimStart ((after? "*" (trimStart s)).getD (trimStart s))) with
    | none => rfl
    | some read => rfl

/-! ## Methods of scripts -/

section Method

theorem isInType_of_isBlank {c : Char} (blank : isBlank c = true) : isInType c = true := by
  rw [isInType, bne, bne, bne, beq_eq_false_of_isBlank rfl c blank,
    beq_eq_false_of_isBlank rfl c blank, beq_eq_false_of_isBlank rfl c blank]
  rfl

/-- A return type, as far as the brace behind it. -/
theorem first_returnType :
    ((word isInType isInType).first line s fun s => (char '\x7b').first line s fun s =>
      some s.capture) =
      if s.rest.head?.any isInType && (s.rest.dropWhile isInType).head? == some '\x7b'
      then some s.capture else none := by
  rw [first_word (refuses_char rfl)]
  cases s.rest with
  | nil => rfl
  | cons c t =>
    rw [name?, List.head?_cons, Option.any_some, List.dropWhile_cons]
    cases isInType c with
    | false => rfl
    | true =>
      rw [if_pos rfl, if_pos rfl, Option.bind_some, first_char, Bool.true_and]
      rfl

/-- The start of a method's body. -/
theorem first_startsBody :
    ((optional (all [char ':', blanks, word isInType isInType])).first line s fun s =>
      (char '\x7b').first line s fun s => some s.capture) =
      if startsBody s.rest then some s.capture else none := by
  have blanks_eq : ∀ s : Cursor, (blanks.first line s fun s =>
      (word isInType isInType).first line s fun s => (char '\x7b').first line s fun s =>
        some s.capture) =
      (word isInType isInType).first line s fun s => (char '\x7b').first line s fun s =>
        some s.capture := by
    intro s
    refine first_many_one_of_same fun c t blank => ?_
    have inside := isInType_of_isBlank blank
    rw [first_returnType, first_returnType, Cursor.rest_leaving, Cursor.rest_leaving,
      List.head?_cons, Option.any_some, inside, Bool.true_and, List.dropWhile_cons, if_pos inside]
    cases (t.dropWhile isInType).head? == some '\x7b' with
    | false => left; rw [Bool.and_false]; rfl
    | true =>
      cases t.head?.any isInType with
      | false => exact .inl rfl
      | true => exact .inr rfl
  rw [first_optional]
  simp only [all, List.foldr_cons, List.foldr_nil, first_seq, first_nothing, blanks_eq]
  rw [first_char, first_char, first_returnType]
  cases s.rest with
  | nil => rfl
  | cons c t =>
    by_cases brace : c = '\x7b'
    · subst brace
      rfl
    · by_cases colon : c = ':'
      · subst colon
        exact Option.or_none
      · have other : ∀ d : Char, c ≠ d → ¬(some c == some d) = true := fun d ne same =>
          ne (Option.some_inj.mp (beq_iff_eq.mp same))
        have none_ : startsBody (c :: t) = false := by
          unfold startsBody
          split
          next same => cases same; exact absurd rfl brace
          next same => cases same; exact absurd rfl colon
          next => rfl
        rw [List.head?_cons, if_neg (other _ colon), if_neg (other _ brace), none_]
        rfl

/-- What comes of a place where a method may start. -/
def fromMethod (line : List Char) (s : Cursor) : Option Capture :=
  (optional (char '*')).first line s fun s =>
    (Pattern.name (word isScriptStart isScriptChar)).first line s fun s => blanks.first line s fun s =>
      (group '(' ')').first line s fun s => blanks.first line s fun s =>
        (optional (all [char ':', blanks, word isInType isInType])).first line s fun s =>
          (char '\x7b').first line s fun s => some s.capture

theorem refuses_fromMethod : Refuses (fromMethod line) isBlank :=
  refuses_optional (refuses_char rfl)
    (refuses_name_word fun _ => isBlank_eq_false_of_isScriptStart)

theorem fromMethod_eq (t : List Char) : fromMethod line { rest := t } = scanMethodName t := by
  have star : "*".toList = ['*'] := rfl
  have round : "(".toList = ['('] := rfl
  have type_ : ∀ {k : Cursor → Option Capture}, Refuses (fun s =>
      (all [char ':', blanks, word isInType isInType]).first line s k) isBlank :=
    fun s c first inside => (first_seq _ _).trans (refuses_char rfl s c first inside)
  rw [fromMethod, first_optional_of_step (first_char_of_toList star) fun t found => ?_,
    first_name_word (refuses_blanks (fun _ => isScriptChar_eq_false_of_isBlank) (refuses_group rfl))]
  · refine Option.bind_congr fun ⟨name, t⟩ _ => ?_
    rw [first_blanks (refuses_group rfl), group, first_seq, first_char_of_toList round]
    refine Option.bind_congr fun t _ => ?_
    rw [first_upTo]
    refine Option.bind_congr fun t _ => ?_
    rw [first_blanks (refuses_optional type_ (refuses_char rfl)), first_startsBody]
    rfl
  · refine eq_none_of_after? (c := '*') rfl (refuses_name_word fun c start => ?_) found
    refine beq_eq_false_iff_ne.mpr ?_
    rintro rfl
    cases start

end Method

/-- Methods are found where their pattern is. -/
theorem scanMethod_eq (line : Line) : scanMethod line = scriptMethod.pattern.find? line := by
  have whole : scriptMethod.pattern.find? line =
      blanks.first line { rest := line } fun s =>
        (many (anyApart methodModifiers)).first line s (fromMethod line) := by
    simp only [find?_eq_first, scriptMethod, all, List.foldr_cons, List.foldr_nil, first_seq,
      first_nothing]
    rfl
  rw [whole, first_blanks (refuses_modifiers rfl refuses_fromMethod),
    first_modifiers rfl refuses_fromMethod]
  exact congrArg (List.findSome? · _) (funext fun t => (fromMethod_eq t).symm)

/-! ## Bound functions -/

section Binding

theorem afterAssignment?_eq_none {c : Char} {t : List Char} (equals : c ≠ '=') (colon : c ≠ ':') :
    afterAssignment? (c :: t) = none := by
  unfold afterAssignment?
  split
  next same => cases same; exact absurd rfl equals
  next same => cases same; exact absurd rfl colon
  next => rfl

theorem afterAssignment?_suffix {t u : List Char} (found : afterAssignment? t = some u) :
    u <:+ t := by
  unfold afterAssignment? at found
  split at found
  next => cases found; exact List.suffix_cons _ _
  next =>
    split at found
    next => cases found
    next => exact (afterFirst?_suffix found).trans (List.suffix_cons _ _)
  next => cases found

/-- An equals sign, behind an annotation if there is one. -/
theorem first_assignment :
    ((optional typeMark).first line s fun s => (char '=').first line s k) =
      (afterAssignment? s.rest).bind fun t => k (s.leaving t) := by
  have annotated : (typeMark.first line s fun s => (char '=').first line s k) =
      if s.rest.head? == some ':' then
        if s.rest.tail.head? == some '=' then none
        else (afterFirst? '=' s.rest.tail).bind fun t => k (s.leaving t)
      else none := by
    simp only [typeMark, all, List.foldr_cons, List.foldr_nil, first_seq, first_nothing]
    rw [first_char]
    split
    next =>
      rw [first_word (refuses_char rfl), Cursor.rest_leaving]
      cases s.rest.tail with
      | nil => rfl
      | cons c t =>
        by_cases here : c = '='
        · subst here
          rfl
        · have other : (c != '=') = true := bne_iff_ne.mpr here
          rw [name?, if_pos other, Option.bind_some, List.head?_cons,
            if_neg fun same => here (Option.some_inj.mp (beq_iff_eq.mp same)), afterFirst?,
            List.dropWhile_cons, if_pos other, ← afterFirst?]
          exact first_char_dropWhile t
    next => rfl
  rw [first_optional, annotated, first_char]
  cases s.rest with
  | nil => rfl
  | cons c t =>
    by_cases colon : c = ':'
    · subst colon
      rw [afterAssignment?]
      refine Option.or_none.trans ?_
      rw [List.head?_cons, List.tail_cons, if_pos (beq_self_eq_true (some ':'))]
      cases t.head? == some '=' with
      | true => rfl
      | false => rfl
    · by_cases equals : c = '='
      · subst equals
        rfl
      · have other : ∀ d : Char, c ≠ d → ¬(some c == some d) = true := fun d ne same =>
          ne (Option.some_inj.mp (beq_iff_eq.mp same))
        rw [List.head?_cons, if_neg (other _ colon), if_neg (other _ equals),
          afterAssignment?_eq_none equals colon]
        rfl

theorem startsArrow_eq (t : List Char) :
    startsArrow t = ((afterAssignment? t).bind (after? ">")).isSome := by
  cases t with
  | nil => rfl
  | cons c u =>
    by_cases equals : c = '='
    · subst equals
      have both : after? "=>" ('=' :: u) = after? ">" u := rfl
      have assigned : afterAssignment? ('=' :: u) = some u := rfl
      rw [startsArrow, both, assigned, Option.bind_some]
      · cases after? ">" u with
        | none => rfl
        | some v => rfl
      · nofun
    · by_cases colon : c = ':'
      · subst colon
        rfl
      · have arrow : after? "=>" (c :: u) = none :=
          after?_of_head? (fun same => equals (Option.some_inj.mp same)) (by decide)
        rw [startsArrow, arrow, afterAssignment?_eq_none equals colon]
        · rfl
        · rintro rest same
          exact colon (List.head_eq_of_cons_eq same)

/-- The arrow behind a parameter list. -/
theorem first_arrow :
    ((optional typeMark).first line s fun s => (text "=>").first line s fun s => some s.capture) =
      if startsArrow s.rest then some s.capture else none := by
  have arrow : ∀ s : Cursor, ((text "=>").first line s fun s => some s.capture) =
      (char '=').first line s fun s => (text ">").first line s fun s => some s.capture :=
    fun s => first_seq _ _
  simp only [arrow]
  rw [first_assignment, startsArrow_eq]
  cases afterAssignment? s.rest with
  | none => rfl
  | some t =>
    rw [Option.bind_some, Option.bind_some, first_text, Cursor.rest_leaving]
    exact bind_some_eq_ite _ _

theorem first_parameters :
    (parameters.first line s fun s => some s.capture) =
      if startsParameters s.rest then some s.capture else none := by
  have round : "(".toList = ['('] := rfl
  have colon : Refuses (fun s => typeMark.first line s fun s =>
      (text "=>").first line s fun s => some s.capture) isBlank :=
    fun s c first inside => (first_seq _ _).trans (refuses_char rfl s c first inside)
  simp only [parameters, all, anyOf, List.foldr_cons, List.foldr_nil, first_either, first_seq,
    first_nothing]
  rw [first_char_of_toList round]
  cases opened : after? "(" s.rest with
  | none =>
    have starts : startsParameters s.rest = false := by simp only [startsParameters, opened]
    rw [starts]
    rfl
  | some t =>
    rw [Option.bind_some, first_upTo, first_many_one refuses_ending, first_ending, first_none,
      Option.or_none, Cursor.rest_leaving, Cursor.rest_leaving]
    cases found : afterFirst? ')' t with
    | none =>
      have starts : startsParameters s.rest = true := by simp only [startsParameters, opened, found]
      rw [starts, afterFirst?_eq_none_iff.mp found]
      rfl
    | some u =>
      have starts : startsParameters s.rest = startsArrow (trimStart u) := by
        simp only [startsParameters, opened, found]
      have some_ : t.dropWhile (· != ')') ≠ [] := fun none_ => by
        rw [afterFirst?_eq_none_iff.mpr none_] at found
        cases found
      rw [Option.bind_some, first_blanks (refuses_optional colon (refuses_text rfl)), first_arrow,
        if_neg (mt List.isEmpty_iff.mp some_), Option.or_none, starts]
      rfl

theorem first_parameter :
    (parameter.first line s fun s => some s.capture) =
      if startsParameter s.rest then some s.capture else none := by
  simp only [parameter, all, List.foldr_cons, List.foldr_nil, first_seq, first_nothing]
  rw [first_word (refuses_blanks (fun _ => isScriptChar_eq_false_of_isBlank) (refuses_text rfl)),
    startsParameter, scriptName?]
  cases name? isScriptStart isScriptChar s.rest with
  | none => rfl
  | some found =>
    rw [Option.bind_some, first_blanks (refuses_text rfl), first_text]
    exact bind_some_eq_ite _ _

theorem first_boundFunction (suffix : s.rest <:+ line) :
    (boundFunction.first line s fun s => some s.capture) =
      if startsFunction s.rest then some s.capture else none := by
  have keyword : ((all [text "function", edge]).first line s fun s => some s.capture) =
      if startsWord "function" s.rest then some s.capture else none := by
    simp only [all, List.foldr_cons, List.foldr_nil, first_seq, first_nothing]
    exact first_word_end suffix rfl rfl
  simp only [boundFunction, anyOf, List.foldr_cons, List.foldr_nil, first_either]
  rw [keyword, first_parameters, first_parameter, first_none, Option.or_none, ite_or_ite, ite_or_ite,
    startsFunction, Bool.or_assoc]

theorem refuses_boundFunction {f : Char → Bool} (blank : ∀ c, isScriptStart c = true → f c = false)
    (round : f '(' = false) (function : f 'f' = false) :
    Refuses (fun s => boundFunction.first line s k) f := by
  refine refuses_either ?_ (refuses_either ?_ (refuses_either ?_ (refuses_one nofun)))
  · exact fun s c first inside =>
      (first_seq _ _).trans (refuses_text (by simpa using function) s c first inside)
  · exact fun s c first inside => (first_seq _ _).trans (refuses_char round s c first inside)
  · exact fun s c first inside => (first_seq _ _).trans (refuses_word blank s c first inside)

end Binding

/-- Variables bound to functions are found where their pattern is. -/
theorem scanBinding_eq (line : Line) : scanBinding line = scriptBinding.pattern.find? line := by
  have bound : ∀ {f : Char → Bool}, (∀ c, isScriptStart c = true → f c = false) → f '(' = false →
      f 'f' = false → Refuses (fun s => boundFunction.first line s fun s => some s.capture) f :=
    refuses_boundFunction
  have annotated : ∀ {f : Char → Bool} {k : Cursor → Option Capture}, f ':' = false →
      f '=' = false → Refuses (fun s => (optional typeMark).first line s fun s => (char '=').first line s k) f := by
    intro f k colon equals
    exact refuses_optional (fun s c first inside =>
      (first_seq _ _).trans (refuses_char colon s c first inside)) (refuses_char equals)
  simp only [find?_eq_first, scriptBinding, all, List.foldr_cons, List.foldr_nil,
      first_seq, first_nothing]
  rw [first_blanks (refuses_optional (refuses_apart rfl) (refuses_anyApart rfl)),
    first_optional_apart (refuses_anyApart rfl) rfl (refuses_anyApart rfl),
    first_anyApart rfl (refuses_name_word fun _ => isBlank_eq_false_of_isScriptStart)]
  refine Option.bind_congr fun s word => ?_
  rw [first_name_word (refuses_blanks (fun _ => isScriptChar_eq_false_of_isBlank)
    (annotated rfl rfl))]
  refine Option.bind_congr fun ⟨name, t⟩ named => ?_
  rw [first_blanks (annotated rfl rfl), first_assignment]
  refine Option.bind_congr fun u assigned => ?_
  have solid : Refuses (fun s => boundFunction.first line s fun s => some s.capture) isBlank :=
    bound (fun _ => isBlank_eq_false_of_isScriptStart) rfl rfl
  rw [first_blanks (refuses_optional (refuses_apart rfl) solid), first_optional, first_apart solid]
  have suffix : trimStart u <:+ line :=
    (trimStart_suffix u).trans ((afterAssignment?_suffix assigned).trans ((trimStart_suffix t).trans
      ((List.IsSuffix.trans ⟨name, (name?_eq_some_iff.mp named).2.2.symm⟩
        (afterAnyWord?_suffix word)).trans ((skipWord_suffix _ _).trans (trimStart_suffix line)))))
  rw [first_boundFunction suffix]
  have here : ((afterWord? "async" (trimStart u)).bind fun t =>
      if startsFunction t then some (⟨name, []⟩ : Capture) else none).or
        (if startsFunction (trimStart u) then some ⟨name, []⟩ else none) =
      if startsFunction (skipWord "async" (trimStart u)) || startsFunction (trimStart u)
      then some ⟨name, []⟩ else none := by
    rw [skipWord]
    cases afterWord? "async" (trimStart u) with
    | none => rw [Option.getD_none, Bool.or_self]; rfl
    | some t => exact ite_or_ite _ _ _
  refine Eq.trans here.symm (congrArg (Option.or · _) ?_)
  refine Option.bind_congr fun t found => ?_
  exact (first_boundFunction (s := ⟨t, ⟨name, []⟩⟩) ((afterWord?_suffix found).trans suffix)).symm

end Header
end CodeGloss
