import CodeGloss.Header.Recognition
import CodeGloss.Proofs.Header.Matching
import CodeGloss.Proofs.Header.Name

/-!
# Patterns of indented definitions, of Rust and of Go

Most of these headers are read from the front, word by word, and what follows a word never starts
with what the word was read from.  The subject of an implementation is the exception.  Its pattern
reads as little as it can, so it goes on character by character until the line may end or a body may
start, and this is how its scanner goes on as well.  If there is no subject behind the blanks, the
pattern gives one blank back and takes it for the subject.

* `scanDef_eq`, `scanIndentedClass_eq`: indented definitions.
* `scanFn_eq`, `scanType_eq`, `scanImpl_eq`: functions, types and implementations of Rust.
* `scanFunc_eq`: functions of Go.
* `first_few_subject`, `first_blanks_of_subjectEnd`: the shortest subject, and the blank in its place.
-/

namespace CodeGloss
namespace Header

open Scanner Text Pattern

variable {line : List Char} {s : Cursor} {k : Cursor → Option Capture}

theorem isBlank_eq_false_of_isNameStart {c : Char} (start : isNameStart c = true) :
    isBlank c = false :=
  isBlank_of_isWord (isWord_of_isNameStart start)

/-- A name at the end of a pattern. -/
theorem first_name_word_last {first other : Char → Bool} :
    ((Pattern.name (word first other)).first line s fun s => some s.capture) =
      (name? first other s.rest).bind fun found =>
        some { s.capture with name := found.1 } := by
  rw [first_name, word, first_seq]
  cases rest_eq : s.rest with
  | nil => exact first_one_nil rest_eq
  | cons c t =>
    rw [first_one_cons rest_eq, name?]
    split
    · refine first_many_one_of_some ?_
      have whole : s.rest = (c :: t.takeWhile other) ++ t.dropWhile other := by
        rw [rest_eq, List.cons_append, List.takeWhile_append_dropWhile]
      exact congrArg (fun name => some { s.capture with name }) (between_leaving whole)
    · rfl

/-! ## Indented definitions -/

/-- Functions marked by indentation are found where their pattern is. -/
theorem scanDef_eq (line : Line) : scanDef line = pythonDef.pattern.find? line := by
  simp only [find?_eq_first, pythonDef, all, List.foldr_cons, List.foldr_nil, first_seq,
    first_nothing]
  rw [first_blanks (refuses_optional (refuses_apart rfl) (refuses_apart rfl)),
    first_optional_apart (refuses_apart rfl) rfl (refuses_apart rfl),
    first_apart (refuses_name_word fun _ => isBlank_eq_false_of_isNameStart)]
  refine Option.bind_congr fun s _ => ?_
  rw [first_name_word (refuses_blanks (fun _ => isWord_eq_false_of_isBlank) (refuses_char rfl))]
  refine Option.bind_congr fun ⟨name, t⟩ _ => ?_
  rw [first_blanks (refuses_char rfl), first_char]
  rfl

theorem opens_cases {c : Char} (opens : (c == '(' || c == ':') = true) : c = '(' ∨ c = ':' := by
  simpa using opens

/-- Classes marked by indentation are found where their pattern is. -/
theorem scanIndentedClass_eq (line : Line) :
    scanIndentedClass line = pythonClass.pattern.find? line := by
  have refuses : ∀ {f : Char → Bool} {k : Cursor → Option Capture}, f '(' = false →
      f ':' = false → Refuses (fun s => (one fun c => c == '(' || c == ':').first line s k) f := by
    intro f k round colon
    refine refuses_one fun c opens => ?_
    rcases opens_cases opens with rfl | rfl
    · exact round
    · exact colon
  simp only [find?_eq_first, pythonClass, all, List.foldr_cons, List.foldr_nil, first_seq,
    first_nothing]
  rw [first_blanks (refuses_apart rfl),
    first_apart (refuses_name_word fun _ => isBlank_eq_false_of_isNameStart)]
  refine Option.bind_congr fun s _ => ?_
  rw [first_name_word (refuses_blanks (fun _ => isWord_eq_false_of_isBlank) (refuses rfl rfl))]
  refine Option.bind_congr fun ⟨name, t⟩ _ => ?_
  rw [first_blanks (refuses rfl rfl)]
  dsimp only
  cases rest_eq : trimStart t with
  | nil => exact (first_one_nil rfl).symm
  | cons c u =>
    refine Eq.trans ?_ (first_one_cons rfl).symm
    rw [List.head?_cons]
    split
    next here => cases here; rfl
    next here => cases here; rfl
    next round colon =>
      rw [if_neg fun opens => ?_]
      rcases opens_cases opens with rfl | rfl
      · exact round rfl
      · exact colon rfl

/-! ## Rust -/

theorem first_optional_visibility (refuses : Refuses k isBlank) (other : Refuses k (· == 'p')) :
    (optional visibility).first line s k = k (s.leaving (skipVisibility s.rest)) := by
  refine first_optional_of_step ?_ fun t found => ?_
  · simp only [visibility, all, List.foldr_cons, List.foldr_nil, first_seq, first_nothing]
    rw [first_text, Option.bind_eq_bind, Option.bind_assoc]
    refine Option.bind_congr fun t _ => ?_
    rw [first_optional_group (refuses_gap (beq_eq_false_of_isBlank rfl)), Option.bind_assoc]
    refine Option.bind_congr fun t _ => ?_
    exact first_gap refuses
  · obtain ⟨u, start, -⟩ := Option.bind_eq_some_iff.mp found
    exact eq_none_of_after? rfl other start

theorem first_optional_convention (refuses : Refuses k isBlank) (other : Refuses k (· == 'e')) :
    (optional convention).first line s k = k (s.leaving (skipExtern s.rest)) := by
  refine first_optional_of_step ?_ fun t found => ?_
  · simp only [convention, all, List.foldr_cons, List.foldr_nil, first_seq, first_nothing]
    rw [first_apart (refuses_char rfl), Option.bind_eq_bind, Option.bind_assoc]
    refine Option.bind_congr fun t _ => ?_
    have quote : "\"".toList = ['"'] := rfl
    rw [first_char_of_toList quote, Option.bind_assoc]
    refine Option.bind_congr fun t _ => ?_
    rw [first_upTo, Option.bind_assoc]
    refine Option.bind_congr fun t _ => ?_
    exact first_gap refuses
  · obtain ⟨u, word, -⟩ := Option.bind_eq_some_iff.mp found
    obtain ⟨v, start, -⟩ := Option.bind_eq_some_iff.mp word
    exact eq_none_of_after? rfl other start

theorem refuses_visibility {f : Char → Bool} (other : f 'p' = false) (behind : Refuses k f) :
    Refuses (fun s => (optional visibility).first line s k) f :=
  refuses_optional (fun s c first inside => (first_seq _ _).trans
    (refuses_text (w := "pub") (by simpa using other) s c first inside)) behind

theorem refuses_convention {f : Char → Bool} (other : f 'e' = false) (behind : Refuses k f) :
    Refuses (fun s => (optional convention).first line s k) f :=
  refuses_optional (fun s c first inside => (first_seq _ _).trans
    (refuses_apart (w := "extern") (by simpa using other) s c first inside)) behind

/-- Functions of Rust are found where their pattern is. -/
theorem scanFn_eq (line : Line) : scanFn line = rustFn.pattern.find? line := by
  have whole : rustFn.pattern.find? line =
      blanks.first line { rest := line } fun s => (optional visibility).first line s
        (skipping line ["default", "const", "async", "unsafe"] fun s =>
          (optional convention).first line s fun s => (apart "fn").first line s fun s =>
            (Pattern.name (word isNameStart isWord)).first line s fun s => some s.capture) := by
    simp only [find?_eq_first, rustFn, all, List.foldr_cons, List.foldr_nil, first_seq,
      first_nothing]
    rfl
  have refuses : ∀ {f : Char → Bool} {k : Cursor → Option Capture},
      (["default", "const", "async", "unsafe"].all fun w => w.toList.head?.any fun c => !f c) = true →
      f 'e' = false → Refuses k f →
      Refuses (skipping line ["default", "const", "async", "unsafe"]
        fun s => (optional convention).first line s k) f :=
    fun other other' behind => refuses_skipping other (refuses_convention other' behind)
  rw [whole,
    first_blanks (refuses_visibility rfl (refuses rfl rfl (refuses_apart rfl))),
    first_optional_visibility (refuses rfl rfl (refuses_apart rfl))
      (refuses rfl rfl (refuses_apart rfl)),
    first_skipping (by decide) rfl (refuses_convention rfl (refuses_apart rfl))
      (refuses_convention rfl (refuses_apart rfl)),
    first_optional_convention (refuses_apart rfl) (refuses_apart rfl),
    first_apart (refuses_name_word fun _ => isBlank_eq_false_of_isNameStart)]
  refine Option.bind_congr fun s _ => ?_
  rw [first_name_word_last]
  exact Option.bind_congr fun ⟨name, t⟩ _ => rfl

/-- Types of Rust are found where their pattern is. -/
theorem scanType_eq (line : Line) : scanType line = rustType.pattern.find? line := by
  simp only [find?_eq_first, rustType, all, List.foldr_cons, List.foldr_nil, first_seq,
    first_nothing]
  rw [first_blanks (refuses_visibility rfl
      (refuses_optional (refuses_apart rfl) (refuses_anyApart rfl))),
    first_optional_visibility (refuses_optional (refuses_apart rfl) (refuses_anyApart rfl))
      (refuses_optional (refuses_apart rfl) (refuses_anyApart rfl)),
    -- The words `unsafe` and `union` start with the same character.
    first_optional_of_step (first_apart (refuses_anyApart rfl)) fun t found => ?_,
    first_anyApart rfl (refuses_name_word fun _ => isBlank_eq_false_of_isNameStart)]
  · refine Option.bind_congr fun s _ => ?_
    rw [first_name_word_last]
    exact Option.bind_congr fun ⟨name, t⟩ _ => rfl
  · rw [first_anyApart rfl (refuses_name_word fun _ => isBlank_eq_false_of_isNameStart),
      afterAnyWord?_eq_none rfl (by decide) found]
    rfl

/-! ## Implementations -/

section Subject

variable {front : List Char} {last : Char}

/-- The end of a subject: nothing, a brace, or the word `where` that the subject does not run into. -/
theorem first_subjectEnd (whole : line = front ++ last :: s.rest) :
    (subjectEnd.first line s fun s => some s.capture) =
      if s.rest.head? == some '\x7b' || startsWord "where" s.rest && !isWord last || s.rest.isEmpty
      then some s.capture else none := by
  have suffix : s.rest <:+ line := ⟨front ++ [last], by rw [whole, List.append_assoc]; rfl⟩
  have brace : ((char '\x7b').first line s fun s => some s.capture) =
      if s.rest.head? == some '\x7b' then some s.capture else none := first_char _
  have where_ : (edge.first line s fun s => (text "where").first line s fun s =>
      edge.first line s fun s => some s.capture) =
      if startsWord "where" s.rest && !isWord last then some s.capture else none := by
    rw [first_edge, first_text_edge suffix rfl rfl, isEdge_of_suffix whole, startsWord]
    cases found : after? "where" s.rest with
    | none => exact ite_self _
    | some t =>
      have starts : s.rest.head?.any isWord = true := by
        rw [after?_eq_some_iff.mp found]
        rfl
      rw [starts, Option.bind_some]
      cases isWord last with
      | true => rw [Bool.not_true, Bool.and_false]; rfl
      | false => rw [Bool.not_false, Bool.and_true]; rfl
  simp only [subjectEnd, anyOf, all, List.foldr_cons, List.foldr_nil, first_either, first_seq,
    first_nothing]
  rw [brace, where_, first_ending, first_none, Option.or_none, ite_or_ite, ite_or_ite, Bool.or_assoc]

theorem refuses_subjectEnd : Refuses (fun s => subjectEnd.first line s k) isBlank := by
  have words : Refuses (fun s => (all [edge, text "where", edge]).first line s k) isBlank := by
    intro s c first inside
    simp only [all, List.foldr_cons, List.foldr_nil, first_seq, first_nothing]
    exact refuses_edge (refuses_text rfl) s c first inside
  exact refuses_either (refuses_char rfl)
    (refuses_either words (refuses_either refuses_ending (refuses_one nofun)))

theorem endsSubject_eq (last : Char) (t : List Char) :
    endsSubject last t =
      ((trimStart t).head? == some '\x7b' ||
        startsWord "where" (trimStart t) &&
          (decide ((trimStart t).length < t.length) || !isWord last) ||
        (trimStart t).isEmpty) := by
  rw [endsSubject]
  split
  next none_ => rw [none_]; rfl
  next rest brace => rw [brace]; rfl
  next some_ other =>
    cases start : trimStart t with
    | nil => exact absurd start some_
    | cons c rest =>
      have foreign : (some c == some '\x7b') = false := by
        refine beq_eq_false_iff_ne.mpr fun same => ?_
        cases same
        exact other rest start
      rw [List.head?_cons, foreign, Bool.false_or, List.isEmpty_cons, Bool.or_false]

/-- Where a subject may end, its end follows behind blanks. -/
theorem first_endsSubject (whole : line = front ++ last :: s.rest) :
    (blanks.first line s fun s => subjectEnd.first line s fun s => some s.capture) =
      if endsSubject last s.rest then some s.capture else none := by
  obtain ⟨gap, blank, rest_eq⟩ := exists_trimStart s.rest
  -- The character before the end is a blank if blanks were passed over.
  obtain ⟨front', last', whole', word_eq⟩ : ∃ front' last',
      line = front' ++ last' :: trimStart s.rest ∧
        (!isWord last') = (decide ((trimStart s.rest).length < s.rest.length) || !isWord last) := by
    generalize trimStart s.rest = t at rest_eq ⊢
    rw [rest_eq] at whole ⊢
    rcases List.eq_nil_or_concat gap with rfl | ⟨gap, c, rfl⟩
    · refine ⟨front, last, whole, ?_⟩
      rw [List.nil_append, decide_eq_false (Nat.lt_irrefl _), Bool.false_or]
    · refine ⟨front ++ last :: gap, c, ?_, ?_⟩
      · rw [whole]
        simp only [List.append_assoc, List.cons_append, List.concat_eq_append, List.nil_append]
      · have shorter : t.length < (gap.concat c ++ t).length := by
          simp only [List.length_append, List.concat_eq_append, List.length_singleton]
          omega
        rw [decide_eq_true shorter, Bool.true_or, isWord_eq_false_of_isBlank, Bool.not_false]
        exact isAllBlank_iff.mp blank c (by rw [List.concat_eq_append]; exact List.mem_concat_self)
  rw [first_blanks refuses_subjectEnd, first_subjectEnd whole', Cursor.rest_leaving, word_eq,
    endsSubject_eq]
  rfl

/-- What comes of a place behind a subject that is read from another place on. -/
def behindSubject (line : List Char) (s s' : Cursor) : Option Capture :=
  blanks.first line { s' with capture := { s'.capture with name := s.between s' } } fun s =>
    subjectEnd.first line s fun s => some s.capture

variable {init rest : List Char}

theorem behindSubject_eq (whole : line = front ++ s.rest) (read : s.rest = init ++ [last] ++ rest) :
    behindSubject line s (s.leaving rest) =
      if endsSubject last rest then some { s.capture with name := init ++ [last] } else none := by
  rw [behindSubject, between_leaving read]
  have whole' : line = (front ++ init) ++ last :: rest := by
    rw [whole, read]
    simp only [List.append_assoc, List.singleton_append]
  exact first_endsSubject whole'

/-- The shortest subject is read. -/
theorem first_few_subject (whole : line = front ++ s.rest)
    (read : s.rest = init ++ [last] ++ rest) :
    (few (one (· != '\x7b'))).first line (s.leaving rest) (behindSubject line s) =
      some { s.capture with name := init ++ [last] ++ subjectTail last rest } := by
  induction rest generalizing init last with
  | nil =>
    rw [first_few_one_nil rfl, behindSubject_eq whole read, subjectTail, List.append_nil]
    rfl
  | cons c rest ih =>
    rw [first_few_one_cons rfl, behindSubject_eq whole read, subjectTail]
    split
    next => rw [List.append_nil]; rfl
    next goes_on =>
      have plain : (c != '\x7b') = true := by
        refine bne_iff_ne.mpr ?_
        rintro rfl
        exact goes_on rfl
      have read' : s.rest = (init ++ [last]) ++ [c] ++ rest := by
        rw [read, List.append_assoc _ [c], List.singleton_append]
      rw [if_pos plain, Option.none_or, List.append_cons _ c]
      exact ih read'

/-- What comes of the place where a subject starts. -/
def fromSubject (line : List Char) (s : Cursor) : Option Capture :=
  (Pattern.name subject).first line s fun s =>
    blanks.first line s fun s => subjectEnd.first line s fun s => some s.capture

theorem fromSubject_cons {c : Char} (whole : line = front ++ s.rest) (start : s.rest = c :: rest)
    (plain : c ≠ '\x7b') :
    fromSubject line s = some { s.capture with name := c :: subjectTail c rest } := by
  rw [fromSubject, first_name, subject, first_seq, first_one_cons start,
    if_pos (bne_iff_ne.mpr plain)]
  have read : s.rest = [] ++ [c] ++ rest := start
  exact first_few_subject whole read

theorem fromSubject_eq_none (none_ : ∀ c ∈ s.rest.head?, c = '\x7b') :
    fromSubject line s = none := by
  rw [fromSubject, first_name, subject, first_seq]
  cases rest_eq : s.rest with
  | nil => exact first_one_nil rest_eq
  | cons c rest =>
    rw [first_one_cons rest_eq, none_ c (by rw [rest_eq]; rfl)]
    rfl

/-- If no subject starts behind blanks, the last of them is the subject. -/
theorem first_blanks_of_subjectEnd (whole : line = front ++ s.rest)
    (none_ : ∀ c ∈ (trimStart s.rest).head?, c = '\x7b') :
    blanks.first line s (fromSubject line) =
      (s.rest.takeWhile isBlank).getLast?.map fun c => { s.capture with name := [c] } := by
  have pieces : s.rest.takeWhile isBlank ++ trimStart s.rest = s.rest :=
    List.takeWhile_append_dropWhile
  have inside : ∀ c ∈ s.rest.takeWhile isBlank, isBlank c = true := fun _ => List.mem_takeWhile_imp
  have stop := flush_trimStart s.rest
  generalize s.rest.takeWhile isBlank = gap at pieces inside ⊢
  generalize trimStart s.rest = t at none_ pieces stop
  rcases List.eq_nil_or_concat gap with rfl | ⟨gap, c, rfl⟩
  · rw [List.nil_append] at pieces
    subst pieces
    have refused : fromSubject line s = none := fromSubject_eq_none none_
    cases rest_eq : s.rest with
    | nil => exact (first_many_one_nil rest_eq).trans refused
    | cons c t =>
      rw [rest_eq] at stop
      refine (first_many_one_cons rest_eq).trans ?_
      rw [stop c rfl]
      exact refused
  · rw [List.concat_eq_append] at inside pieces ⊢
    rw [List.append_assoc, List.singleton_append] at pieces
    rw [List.getLast?_concat, Option.map_some]
    refine first_many_one_of_none pieces.symm inside stop (fromSubject_eq_none none_) ?_
    have ends : endsSubject c t = true := by
      rw [endsSubject_eq, trimStart_of_flush stop]
      cases t with
      | nil => rfl
      | cons d t => rw [none_ d rfl]; rfl
    have plain : c ≠ '\x7b' := by
      rintro rfl
      cases inside _ List.mem_concat_self
    have tail : subjectTail c t = [] := by
      cases t with
      | nil => rfl
      | cons d t => rw [subjectTail, if_pos ends]
    have whole' : line = (front ++ gap) ++ (s.leaving (c :: t)).rest := by
      rw [whole, ← pieces, Cursor.rest_leaving, List.append_assoc]
    rw [fromSubject_cons whole' rfl plain, tail]
    rfl

/-- A subject behind blanks.  If there is none behind all of them, the last one may stand for it. -/
theorem first_gap_subject (suffix : s.rest <:+ line) :
    gap.first line s (fromSubject line) =
      (subject? s.rest).bind fun name => some { s.capture with name } := by
  obtain ⟨front, whole⟩ := suffix
  rw [gap, first_seq]
  cases rest_eq : s.rest with
  | nil => exact first_one_nil rest_eq
  | cons c t =>
    rw [first_one_cons rest_eq]
    split
    next blank =>
      have after : afterBlanks? (c :: t) = some (trimStart t) := if_pos blank
      have whole' : line = (front ++ [c]) ++ (s.leaving t).rest := by
        rw [← whole, rest_eq, Cursor.rest_leaving, List.append_assoc, List.singleton_append]
      have last_blank : (t.takeWhile isBlank).getLast?.map (fun c => { s.capture with name := [c] }) =
          ((t.takeWhile isBlank).getLast?.map ([·])).bind fun name =>
            some { s.capture with name } := by
        cases (t.takeWhile isBlank).getLast? with
        | none => rfl
        | some c => rfl
      rw [subject?, after, List.takeWhile_cons, if_pos blank, List.tail_cons, Option.bind_eq_bind,
        Option.bind_some]
      dsimp only
      split
      next start =>
        have none_ : ∀ d ∈ (trimStart (s.leaving t).rest).head?, d = '\x7b' := by
          rw [Cursor.rest_leaving, start]
          intro d first
          cases first
        rw [first_blanks_of_subjectEnd whole' none_]
        exact last_blank
      next rest start =>
        have brace : ∀ d ∈ (trimStart (s.leaving t).rest).head?, d = '\x7b' := by
          rw [Cursor.rest_leaving, start]
          intro d first
          cases first
          rfl
        rw [first_blanks_of_subjectEnd whole' brace]
        exact last_blank
      next d rest plain start =>
        refine first_many_one_of_some ?_
        have whole'' : line = front ++ [c] ++ t.takeWhile isBlank ++ trimStart t := by
          rw [List.append_assoc, trimStart, List.takeWhile_append_dropWhile]
          exact whole'
        exact fromSubject_cons whole'' start plain
    next solid =>
      have none_ : afterBlanks? (c :: t) = none := if_neg solid
      rw [subject?, none_]
      rfl

end Subject

/-- Implementations are found where their pattern is. -/
theorem scanImpl_eq (line : Line) : scanImpl line = rustImpl.pattern.find? line := by
  have whole : rustImpl.pattern.find? line =
      blanks.first line { rest := line } fun s => (optional (apart "unsafe")).first line s fun s =>
        (text "impl").first line s fun s => (optional (group '<' '>')).first line s fun s =>
          gap.first line s (fromSubject line) := by
    simp only [find?_eq_first, rustImpl, all, List.foldr_cons, List.foldr_nil, first_seq,
      first_nothing]
    rfl
  rw [whole, first_blanks (refuses_optional (refuses_apart rfl) (refuses_text rfl)),
    first_optional_apart (refuses_text rfl) rfl (refuses_text rfl), first_text]
  refine Option.bind_congr fun s start => ?_
  rw [first_optional_group (refuses_gap (beq_eq_false_of_isBlank rfl))]
  refine Option.bind_congr fun t group => ?_
  have suffix : t <:+ line :=
    (skipGroup?_suffix group).trans ((after?_suffix start).trans
      ((skipWord_suffix _ _).trans (trimStart_suffix line)))
  rw [first_gap_subject suffix]
  rfl

/-! ## Go -/

/-- A group with blanks behind it, or nothing. -/
theorem first_optional_group_blanks {opening closing : Char} (solid : isBlank opening = false)
    (refuses : Refuses k isBlank) (other : Refuses k (· == opening)) (flush : Flush s.rest) :
    (optional (seq (group opening closing) (seq blanks nothing))).first line s k =
      (skipGroup? opening closing s.rest).bind fun t => k (s.leaving (trimStart t)) := by
  have blanks_eq : ∀ s : Cursor, (seq blanks nothing).first line s k =
      k (s.leaving (trimStart s.rest)) := by
    intro s
    simp only [first_seq, first_nothing]
    exact first_blanks refuses
  have same : (optional (seq (group opening closing) (seq blanks nothing))).first line s k =
      (optional (group opening closing)).first line s fun s => k (s.leaving (trimStart s.rest)) := by
    rw [first_optional, first_optional, first_seq, trimStart_of_flush flush, Cursor.leaving_rest]
    simp only [blanks_eq]
  rw [same, first_optional_group]
  · rfl
  · intro s c first inside
    have flush' : Flush s.rest := by
      intro d first'
      cases first.symm.trans first'
      rw [beq_iff_eq.mp inside, solid]
    rw [← other s c first inside]
    exact congrArg k (congrArg s.leaving (trimStart_of_flush flush'))

/-- Functions of Go are found where their pattern is. -/
theorem scanFunc_eq (line : Line) : scanFunc line = goFunc.pattern.find? line := by
  have named : ∀ {f : Char → Bool} {k : Cursor → Option Capture},
      (∀ c, isNameStart c = true → f c = false) → f '(' = false →
      Refuses (fun s => (optional (seq (group '(' ')') (seq blanks nothing))).first line s fun s =>
        (Pattern.name (word isNameStart isWord)).first line s k) f := by
    intro f k start other
    refine refuses_optional (fun s c first inside => ?_) (refuses_name_word start)
    exact (first_seq _ _).trans (refuses_group other s c first inside)
  have parameters : ∀ {f : Char → Bool} {k : Cursor → Option Capture}, f '[' = false →
      f '(' = false →
      Refuses (fun s => (optional (seq (group '[' ']') (seq blanks nothing))).first line s fun s =>
        (char '(').first line s k) f := by
    intro f k square round
    refine refuses_optional (fun s c first inside => ?_) (refuses_char round)
    exact (first_seq _ _).trans (refuses_group square s c first inside)
  simp only [find?_eq_first, goFunc, all, List.foldr_cons, List.foldr_nil, first_seq, first_nothing]
  rw [first_blanks (refuses_text rfl), first_text]
  refine Option.bind_congr fun s _ => ?_
  rw [first_blanks (named (fun _ => isBlank_eq_false_of_isNameStart) rfl),
    first_optional_group_blanks rfl (refuses_name_word fun _ => isBlank_eq_false_of_isNameStart)
      (refuses_name_word ?_) (flush_trimStart s)]
  · refine Option.bind_congr fun t _ => ?_
    rw [first_name_word (refuses_blanks (fun _ => isWord_eq_false_of_isBlank) (parameters rfl rfl))]
    refine Option.bind_congr fun ⟨name, t⟩ _ => ?_
    rw [first_blanks (parameters rfl rfl),
      first_optional_group_blanks rfl (refuses_char rfl) (refuses_char rfl) (flush_trimStart t)]
    refine Option.bind_congr fun t _ => ?_
    rw [first_char]
    rfl
  · rintro c start
    refine beq_eq_false_iff_ne.mpr ?_
    rintro rfl
    cases start

end Header
end CodeGloss
