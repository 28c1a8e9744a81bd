import CodeGloss.Proofs.Service.Encoding
import CodeGloss.Proofs.Text.Lines
import CodeGloss.Service.Client

/-!
# What requests ask for below a base URL

A client puts a path behind its base URL and reads the whole as one URL.  Here this is taken apart:

* `Url.exists_clean`, `Url.exists_ofRest?`: reading a base URL first and then the path comes to the same
  place, as long as the base URL has neither a query nor a fragment (`Client.IsPlain`).
* `Client.IsPlain.exists_read?_url`: so there are directories that belong to the base URL, and every
  path is walked from there.
* `Url.walk_of_names`, `Url.weight_walk_lt`: a path of names only is put below the directories as it is.
  A dot or a double dot makes the outcome shorter than directories and path together.

Lengths are those of what is read back (`Url.weight`), for which the escapes that are written on the way
do not count.  `Client.exists_isPlain` says which base URLs are meant.
-/

namespace CodeGloss
namespace Service

open Text (splitOn splitOn_nil splitOn_cons splitOn_ne_nil splitOn_append)

namespace Url

variable {p : Char → Bool} {c : Char} {s t x : List Char}

/-! ## Cleaning -/

/-- What a text loses at its end it loses behind the last character that stays. -/
theorem rdropWhile_append_cons (stops : p c = false) (s t : List Char) :
    (s ++ c :: t).rdropWhile p = s ++ c :: t.rdropWhile p := by
  simp only [List.rdropWhile, List.reverse_append, List.reverse_cons, List.append_assoc,
    List.singleton_append, List.dropWhile_append]
  split
  next none_ =>
    rw [List.isEmpty_iff] at none_
    rw [none_, List.dropWhile_cons_of_neg (by rw [stops]; exact Bool.false_ne_true)]
    simp
  next => simp

/-- A character that is not dropped within a text. -/
def staysWithin (c : Char) : Bool :=
  c != '\t' && c != '\n' && c != '\r'

/-- What is left of the end of a text. -/
def kept (s : List Char) : List Char :=
  (s.rdropWhile isControl).filter staysWithin

/-- Behind a slash only the end of a text is cleaned. -/
theorem exists_clean (s : List Char) :
    ∃ front, (∀ c ∈ front, c ∈ s) ∧ ∀ x, clean (s ++ '/' :: x) = front ++ '/' :: kept x := by
  have stops : isControl '/' = false := rfl
  obtain ⟨front, from_, eq⟩ : ∃ front, (∀ c ∈ front, c ∈ s) ∧
      ∀ x, (s ++ '/' :: x).dropWhile isControl = front ++ '/' :: x := by
    cases none_ : (s.dropWhile isControl).isEmpty with
    | true =>
      refine ⟨[], nofun, fun x => ?_⟩
      rw [List.dropWhile_append, none_, if_pos rfl, List.dropWhile_cons_of_neg (by decide)]
      rfl
    | false =>
      refine ⟨s.dropWhile isControl, fun c mem => (List.dropWhile_suffix _).mem mem, fun x => ?_⟩
      rw [List.dropWhile_append, none_, if_neg Bool.false_ne_true]
  refine ⟨front.filter staysWithin,
    fun c mem => from_ c (List.mem_of_mem_filter mem), fun x => ?_⟩
  show (((s ++ '/' :: x).dropWhile isControl).rdropWhile isControl).filter _ = _
  rw [eq x, rdropWhile_append_cons stops, kept, List.filter_append]
  rfl

/-! ## Steps -/

/-- Whether a segment is no name: a dot or a double dot, whose dots may be encoded. -/
def IsDots (s : List Char) : Prop :=
  plainDots s = ['.'] ∨ plainDots s = ['.', '.']

instance (s : List Char) : Decidable (IsDots s) :=
  inferInstanceAs (Decidable (_ ∨ _))

theorem ofSegment_of_isDots (dots : IsDots s) :
    Step.ofSegment s = .stay ∨ Step.ofSegment s = .up := by
  rw [Step.ofSegment]
  rcases dots with dot | dots
  · rw [dot]
    exact .inl rfl
  · rw [dots]
    exact .inr rfl

theorem ofSegment_of_not_isDots (name : ¬IsDots s) :
    Step.ofSegment s = .down (Form.percentEncode isPathPlain s) := by
  rw [Step.ofSegment]
  split
  next dot => exact absurd (.inl dot) name
  next dots => exact absurd (.inr dots) name
  next => rfl

/-- The path that a segment leads to, the last name first. -/
def descend (above : List (List Char)) (s : List Char) : List (List Char) :=
  match Step.ofSegment s with
  | .stay => above
  | .up => above.tail
  | .down segment => segment :: above

variable {above front rest : List (List Char)}

theorem walk_cons (some_ : rest ≠ []) (above : List (List Char)) (s : List Char) :
    walk above (s :: rest) = walk (descend above s) rest := by
  rw [walk, descend]
  · cases Step.ofSegment s <;> rfl
  · exact some_

/-- The steps at the front of a path lead to some place, from which the others go on. -/
theorem walk_append (some_ : rest ≠ []) (above front : List (List Char)) :
    walk above (front ++ rest) = walk (front.foldl descend above) rest := by
  induction front generalizing above with
  | nil => rfl
  | cons s front ih =>
    rw [List.cons_append, walk_cons (List.append_ne_nil_of_right_ne_nil front some_), ih,
      List.foldl_cons]

/-- Names lead down. -/
theorem walk_of_names (some_ : rest ≠ []) (names : ∀ s ∈ rest, ¬IsDots s)
    (above : List (List Char)) :
    walk above rest = above.reverse ++ rest.map (Form.percentEncode isPathPlain) := by
  induction rest generalizing above with
  | nil => exact absurd rfl some_
  | cons s rest ih =>
    obtain ⟨name, names⟩ := List.forall_mem_cons.mp names
    by_cases last : rest = []
    · subst last
      rw [walk, ofSegment_of_not_isDots name, List.map_singleton]
      exact List.reverse_cons
    · rw [walk_cons last, descend, ofSegment_of_not_isDots name, ih last names, List.reverse_cons,
        List.append_assoc, List.singleton_append, List.map_cons]

/-! ## How long a path is -/

/-- How many bytes the segments of a path stand for, with a slash in front of each. -/
def weight (segments : List (List Char)) : Nat :=
  (segments.flatMap fun s => 0x2F :: Form.decodeBytes s).length

theorem weight_append (front rest : List (List Char)) :
    weight (front ++ rest) = weight front + weight rest := by
  rw [weight, List.flatMap_append, List.length_append]
  rfl

theorem weight_cons (s : List Char) (rest : List (List Char)) :
    weight (s :: rest) = (Form.decodeBytes s).length + 1 + weight rest := by
  rw [weight, List.flatMap_cons, List.length_append, List.length_cons]
  rfl

theorem weight_singleton (s : List Char) : weight [s] = (Form.decodeBytes s).length + 1 :=
  weight_cons s []

theorem weight_reverse (segments : List (List Char)) :
    weight segments.reverse = weight segments :=
  ((List.reverse_perm segments).flatMap_right _).length_eq

theorem weight_tail_le (segments : List (List Char)) : weight segments.tail ≤ weight segments := by
  cases segments with
  | nil => exact Nat.le_refl _
  | cons s rest =>
    rw [weight_cons]
    exact Nat.le_add_left _ _

/-- Percent signs and digits are ASCII characters. -/
theorem keepsEscapes_of_ascii {plain : Char → Bool} (percent : plain '%' = true)
    (digits : ∀ n < 128, (Form.hexValue? (Char.ofNat n)).isSome → plain (Char.ofNat n) = true) :
    Form.KeepsEscapes plain := by
  refine ⟨percent, fun c digit => ?_⟩
  have ascii : c.toNat < 128 := by
    by_contra large
    rw [Form.hexValue?] at digit
    have bound : ∀ d : Char, d.toNat < 128 → ¬c ≤ d := by
      intro d small le
      exact large (Nat.lt_of_le_of_lt le small)
    simp [bound '9' (by decide), bound 'F' (by decide), bound 'f' (by decide)] at digit
  have := digits c.toNat ascii
  rw [Char.ofNat_toNat] at this
  exact this digit

theorem keepsEscapes_isPathPlain : Form.KeepsEscapes isPathPlain :=
  keepsEscapes_of_ascii rfl (by decide)

theorem keepsEscapes_isQueryPlain : Form.KeepsEscapes isQueryPlain :=
  keepsEscapes_of_ascii rfl (by decide)

theorem weight_percentEncode (s : List Char) (rest : List (List Char)) :
    weight (Form.percentEncode isPathPlain s :: rest) = weight (s :: rest) := by
  rw [weight_cons, weight_cons, Form.decodeBytes_percentEncode keepsEscapes_isPathPlain]

theorem weight_descend_of_isDots (dots : IsDots s) (above : List (List Char)) :
    weight (descend above s) ≤ weight above := by
  rw [descend]
  rcases ofSegment_of_isDots dots with eq | eq
  · rw [eq]
  · rw [eq]
    exact weight_tail_le above

theorem weight_descend_le (above : List (List Char)) (s : List Char) :
    weight (descend above s) ≤ weight above + weight [s] := by
  by_cases dots : IsDots s
  · exact Nat.le_add_right_of_le (weight_descend_of_isDots dots above)
  · rw [descend, ofSegment_of_not_isDots dots]
    show weight (_ :: above) ≤ _
    rw [weight_percentEncode, ← List.singleton_append, weight_append, Nat.add_comm]

/-- A dot or a double dot at the end of a path leaves a slash there. -/
theorem weight_walk_singleton_of_isDots (dots : IsDots s) (above : List (List Char)) :
    weight (walk above [s]) < weight above + weight [s] := by
  have some_ : s ≠ [] := by
    rintro rfl
    rcases dots with dot | dots
    · cases dot
    · cases dots
  have pos := Form.length_decodeBytes_pos some_
  have le := weight_descend_of_isDots dots above
  have last : walk above [s] = ([] :: descend above s).reverse := by
    rw [walk, descend]
    rcases ofSegment_of_isDots dots with eq | eq <;> rw [eq]
  have empty : (Form.decodeBytes []).length = 0 := rfl
  rw [last, weight_reverse, weight_cons, weight_singleton, empty]
  omega

theorem weight_walk_singleton_le (above : List (List Char)) (s : List Char) :
    weight (walk above [s]) ≤ weight above + weight [s] := by
  by_cases dots : IsDots s
  · exact Nat.le_of_lt (weight_walk_singleton_of_isDots dots above)
  · rw [walk, ofSegment_of_not_isDots dots]
    show weight (_ :: above).reverse ≤ _
    rw [weight_reverse, weight_percentEncode, ← List.singleton_append, weight_append, Nat.add_comm]

/-- Walking a path does not make it longer. -/
theorem weight_walk_le (above rest : List (List Char)) :
    weight (walk above rest) ≤ weight above + weight rest := by
  induction rest generalizing above with
  | nil =>
    rw [walk, weight_reverse]
    exact Nat.le_add_right _ _
  | cons s rest ih =>
    by_cases last : rest = []
    · rw [last]
      exact weight_walk_singleton_le above s
    · calc weight (walk above (s :: rest))
          = weight (walk (descend above s) rest) := by rw [walk_cons last]
        _ ≤ weight (descend above s) + weight rest := ih _
        _ ≤ weight above + weight [s] + weight rest :=
          Nat.add_le_add_right (weight_descend_le above s) _
        _ = weight above + weight (s :: rest) := by
          rw [Nat.add_assoc, ← weight_append, List.singleton_append]

/-- Dots make a path shorter. -/
theorem weight_walk_lt (above : List (List Char)) (dots : ∃ s ∈ rest, IsDots s) :
    weight (walk above rest) < weight above + weight rest := by
  induction rest generalizing above with
  | nil =>
    obtain ⟨_, ⟨⟩, -⟩ := dots
  | cons s rest ih =>
    obtain ⟨t, mem, dots⟩ := dots
    by_cases last : rest = []
    · subst last
      rw [List.mem_singleton] at mem
      exact weight_walk_singleton_of_isDots (mem ▸ dots) above
    · rw [walk_cons last, weight_cons]
      rcases List.mem_cons.mp mem with rfl | mem
      · have here := weight_descend_of_isDots dots above
        have others := weight_walk_le (descend above t) rest
        omega
      · have here := weight_descend_le above s
        rw [weight_singleton] at here
        have others := ih (descend above s) ⟨t, mem, dots⟩
        omega

/-! ## Paths as texts -/

/-- The text of a path has a slash in front of each segment. -/
theorem cons_intercalate (some_ : rest ≠ []) :
    '/' :: ['/'].intercalate rest = rest.flatMap ('/' :: ·) := by
  induction rest with
  | nil => exact absurd rfl some_
  | cons s rest ih =>
    cases rest with
    | nil => simp [List.intercalate]
    | cons t rest =>
      rw [List.flatMap_cons, ← ih (List.cons_ne_nil t rest), List.cons_append]
      simp [List.intercalate]

theorem walk_ne_nil (some_ : rest ≠ []) (above : List (List Char)) : walk above rest ≠ [] := by
  induction rest generalizing above with
  | nil => exact absurd rfl some_
  | cons s rest ih =>
    by_cases last : rest = []
    · subst last
      rw [walk]
      split <;> simp
    · rw [walk_cons last]
      exact ih last _

/-- A text as the path that it is: a backslash is a slash. -/
def slashed (s : List Char) : List Char :=
  s.map fun c => if isSlash c then '/' else c

theorem flatMap_splitOn (s : List Char) :
    (splitOn isSlash s).flatMap ('/' :: ·) = '/' :: slashed s := by
  induction s with
  | nil => rfl
  | cons c s ih =>
    rw [Text.splitOn_cons]
    split
    next slash =>
      rw [List.flatMap_cons, ih, slashed, slashed, List.map_cons, if_pos slash]
      rfl
    next other =>
      obtain ⟨first, others, pieces⟩ := List.exists_cons_of_ne_nil (splitOn_ne_nil isSlash s)
      rw [pieces, List.flatMap_cons, List.cons_append, List.cons.injEq] at ih
      rw [pieces, slashed, List.map_cons, if_neg other]
      show '/' :: c :: (first ++ others.flatMap ('/' :: ·)) = _
      rw [ih.2]
      rfl

/-- Texts are split alike where the same characters of theirs separate. -/
theorem splitOn_congr {p q : Char → Bool} {s : List Char} (same : ∀ d ∈ s, p d = q d) :
    splitOn p s = splitOn q s := by
  induction s with
  | nil => rfl
  | cons d s ih =>
    obtain ⟨here, later⟩ := List.forall_mem_cons.mp same
    rw [splitOn_cons, splitOn_cons, here, ih later]

/-! ## Steps without escapes -/

theorem not_mem_slashed (s : List Char) : '\\' ∉ slashed s := by
  intro mem
  obtain ⟨d, -, eq⟩ := List.mem_map.mp mem
  split at eq
  next => cases eq
  next other =>
    subst eq
    exact other rfl

theorem slashed_eq_self_iff {s : List Char} : slashed s = s ↔ '\\' ∉ s := by
  constructor
  · intro same
    rw [← same]
    exact not_mem_slashed s
  · intro none_
    refine (List.map_congr_left fun d mem => ?_).trans (List.map_id s)
    split
    next slash =>
      rw [isSlash, Bool.or_eq_true, beq_iff_eq, beq_iff_eq] at slash
      exact (slash.resolve_right fun back => none_ (back ▸ mem)).symm
    next => rfl

theorem hasEscape_flatMap {segments : List (List Char)} {s : List Char} (mem : s ∈ segments)
    (escape : Form.hasEscape s = true) :
    Form.hasEscape (segments.flatMap ('/' :: ·)) = true := by
  induction segments with
  | nil => cases mem
  | cons t segments ih =>
    rw [List.flatMap_cons, List.cons_append, ← List.singleton_append]
    refine Form.hasEscape_append (.inr (Form.hasEscape_append ?_))
    rcases List.mem_cons.mp mem with rfl | mem
    · exact .inl escape
    · exact .inr (ih mem)

/-- Without escapes the dots of a segment are all written out. -/
theorem plainDots_of_hasEscape_eq_false {s : List Char} (none_ : Form.hasEscape s = false) :
    plainDots s = s := by
  induction s using plainDots.induct with
  | case1 rest ih => cases none_
  | case2 rest ih => cases none_
  | case3 d rest h1 h2 ih =>
    rw [Form.hasEscape, Bool.or_eq_false_iff] at none_
    rw [plainDots, ih none_.2]
    · exact h1
    · exact h2
  | case4 => rfl

/-- Without escapes and backslashes a step is a dot or a double dot only if it is written so. -/
theorem isDots_iff_of_plain {s t : List Char} (plain : Form.hasEscape s = false)
    (slashes : '\\' ∉ s) (mem : t ∈ splitOn isSlash s) :
    IsDots t ↔ t = ['.'] ∨ t = ['.', '.'] := by
  have none_ : Form.hasEscape t = false := by
    refine Bool.eq_false_iff.mpr fun escape => ?_
    have whole := hasEscape_flatMap mem escape
    rw [flatMap_splitOn, slashed_eq_self_iff.mpr slashes] at whole
    have same : Form.hasEscape ('/' :: s) = Form.hasEscape s := rfl
    rw [same, plain] at whole
    cases whole
  rw [IsDots, plainDots_of_hasEscape_eq_false none_]

/-! ## How long the text of a path is -/

theorem isApart_slash : Form.IsApart '/' :=
  ⟨by decide, rfl⟩

/-- A path stands for as many bytes as its segments. -/
theorem length_decodeBytes_flatMap (rest : List (List Char)) :
    (Form.decodeBytes (rest.flatMap ('/' :: ·))).length = weight rest := by
  induction rest with
  | nil => rfl
  | cons s rest ih =>
    have apart : ∀ c ∈ (rest.flatMap ('/' :: ·)).head?, Form.IsApart c := by
      cases rest with
      | nil => nofun
      | cons t rest =>
        rintro c ⟨⟩
        exact isApart_slash
    rw [List.flatMap_cons, List.cons_append, Form.decodeBytes_cons (.inl isApart_slash.1),
      Form.decodeBytes_append apart, List.length_append, List.length_append, ih, weight_cons]
    show 1 + _ = _
    omega

/-- The bytes of a text are as many as those of the path that it is. -/
theorem length_bytes_slashed (s : List Char) :
    (Form.bytes (slashed s)).length = (Form.bytes s).length := by
  induction s with
  | nil => rfl
  | cons c s ih =>
    rw [slashed, List.map_cons, Form.bytes_cons, Form.bytes_cons, List.length_append,
      List.length_append]
    refine congrArg₂ _ ?_ ih
    split
    next slash =>
      rw [isSlash, Bool.or_eq_true, beq_iff_eq, beq_iff_eq] at slash
      rcases slash with rfl | rfl <;> rfl
    next => rfl

theorem percentEncode_flatMap (rest : List (List Char)) :
    (rest.map (Form.percentEncode isPathPlain)).flatMap ('/' :: ·) =
      Form.percentEncode isPathPlain (rest.flatMap ('/' :: ·)) := by
  induction rest with
  | nil => rfl
  | cons s rest ih =>
    rw [List.map_cons, List.flatMap_cons, List.flatMap_cons, ih, Form.percentEncode_append]
    rfl

/-! ## Parts -/

/-- The path in what follows an authority or a slash. -/
def pathPart (x : List Char) : List Char :=
  (x.takeWhile (· != '#')).takeWhile (· != '?')

/-- The query in what follows an authority or a slash, with its question mark. -/
def queryPart (x : List Char) : List Char :=
  (x.takeWhile (· != '#')).dropWhile (· != '?')

/-- Whether there is neither a query nor a fragment can be told. -/
theorem bare_iff : (∀ d ∈ s, d ≠ '?' ∧ d ≠ '#') ↔ (s.all fun d => d != '?' && d != '#') = true := by
  simp only [List.all_eq_true, Bool.and_eq_true, bne_iff_ne]

/-- A text without a query and a fragment in front of another one belongs to the path. -/
theorem pathPart_append (bare : ∀ d ∈ s, d ≠ '?' ∧ d ≠ '#') (x : List Char) :
    pathPart (s ++ x) = s ++ pathPart x := by
  rw [pathPart, List.takeWhile_append_of_pos fun d mem => bne_iff_ne.mpr (bare d mem).2,
    List.takeWhile_append_of_pos fun d mem => bne_iff_ne.mpr (bare d mem).1]
  rfl

theorem queryPart_append (bare : ∀ d ∈ s, d ≠ '?' ∧ d ≠ '#') (x : List Char) :
    queryPart (s ++ x) = queryPart x := by
  rw [queryPart, List.takeWhile_append_of_pos fun d mem => bne_iff_ne.mpr (bare d mem).2,
    List.dropWhile_append_of_pos fun d mem => bne_iff_ne.mpr (bare d mem).1]
  rfl

/-- The query of a URL that has a question mark in front, encoded. -/
def queryOf? : List Char → Option (List Char)
  | [] => none
  | _ :: q => some (Form.percentEncode isQueryPlain q)

/-- The server that is named in what follows the scheme. -/
def hostOf (s : List Char) : List Char :=
  ((s.takeWhile (!endsAuthority ·)).reverse.takeWhile (· != '@')).reverse

/-- The URL for what follows the scheme. -/
def ofRest? (s : List Char) : Option Url :=
  let behind := s.dropWhile (!endsAuthority ·)
  if isAuthority (hostOf s) then
    some ⟨hostOf s, walk [] (splitOn isSlash (pathPart behind).tail), queryOf? (queryPart behind)⟩
  else none

theorem read?_eq_bind (text : String) :
    read? text = (afterScheme? (clean text.toList)).bind ofRest? := by
  rw [read?]
  refine congrArg (Option.bind _) (funext fun s => ?_)
  rw [ofRest?]
  show (if !isAuthority (hostOf s) then none else _) = _
  cases isAuthority (hostOf s) <;> rfl

theorem takeWhile_append_of_mem (mem : c ∈ s) (stops : p c = false) (x : List Char) :
    (s ++ x).takeWhile p = s.takeWhile p ∧ (s ++ x).dropWhile p = s.dropWhile p ++ x := by
  induction s with
  | nil => cases mem
  | cons d s ih =>
    rw [List.cons_append]
    cases here : p d with
    | false =>
      have stop : ¬p d = true := by rw [here]; exact Bool.false_ne_true
      simp only [List.takeWhile_cons_of_neg stop, List.dropWhile_cons_of_neg stop,
        List.cons_append, and_self]
    | true =>
      have later : c ∈ s := (List.mem_cons.mp mem).resolve_left fun same => by
        rw [same, here] at stops
        cases stops
      simp only [List.takeWhile_cons_of_pos here, List.dropWhile_cons_of_pos here, ih later,
        and_self]

/-- What follows a slash goes on with the path in front of it. -/
theorem exists_splitOn (ends : s.getLast? = some '/') :
    ∃ front, ∀ x, splitOn isSlash (s ++ x).tail = front ++ splitOn isSlash x := by
  obtain ⟨before, rfl⟩ := List.getLast?_eq_some_iff.mp ends
  cases before with
  | nil => exact ⟨[], fun x => rfl⟩
  | cons d before =>
    refine ⟨splitOn isSlash before, fun x => ?_⟩
    rw [List.append_assoc, List.cons_append, List.tail_cons, List.singleton_append,
      splitOn_append (by rfl)]

/-- What follows a text that ends with a slash goes on with its path, if there is no query and no
fragment in that text. -/
theorem exists_ofRest? {u : Url} (ends : s.getLast? = some '/')
    (bare : ∀ c ∈ s, c ≠ '?' ∧ c ≠ '#') (read : ofRest? s = some u) :
    ∃ above, u = ⟨u.authority, ([] :: above).reverse, none⟩ ∧
      ∀ x, ofRest? (s ++ x) =
        some ⟨u.authority, walk above (splitOn isSlash (pathPart x)), queryOf? (queryPart x)⟩ := by
  have slash : '/' ∈ s := List.mem_of_getLast? ends
  have same := takeWhile_append_of_mem slash (p := (!endsAuthority ·)) rfl
  have host : ∀ x, hostOf (s ++ x) = hostOf s := fun x => by rw [hostOf, (same x).1, hostOf]
  obtain ⟨behind, behind_eq⟩ : ∃ behind, s.dropWhile (!endsAuthority ·) = behind := ⟨_, rfl⟩
  have suffix_ : behind <:+ s := behind_eq ▸ List.dropWhile_suffix _
  have ends' : behind.getLast? = some '/' := by
    obtain ⟨front, rfl⟩ := suffix_
    have some_ : behind ≠ [] := by
      rintro rfl
      exact absurd (List.dropWhile_eq_nil_iff.mp behind_eq '/' slash) (by decide)
    rwa [List.getLast?_append_of_ne_nil _ some_] at ends
  have bare' : ∀ d ∈ behind, d ≠ '?' ∧ d ≠ '#' := fun d mem => bare d (suffix_.mem mem)
  obtain ⟨front, pieces⟩ := exists_splitOn ends'
  have whole : ∀ x, ofRest? (s ++ x) =
      if isAuthority (hostOf s) then
        some ⟨hostOf s, walk (front.foldl descend []) (splitOn isSlash (pathPart x)),
          queryOf? (queryPart x)⟩
      else none := by
    intro x
    simp only [ofRest?, host, (same x).2, behind_eq, pathPart_append bare', queryPart_append bare',
      pieces, walk_append (splitOn_ne_nil _ _)]
  have alone := whole []
  rw [List.append_nil, read] at alone
  split at alone
  next valid =>
    cases alone
    refine ⟨front.foldl descend [], rfl, fun x => ?_⟩
    rw [whole x, if_pos valid]
  next => cases alone

theorem suffix_of_afterScheme? {after : List Char} (found : afterScheme? s = some after) :
    after <:+ s := by
  rw [afterScheme?] at found
  split at found
  next colon rest eq =>
    split at found
    · cases found
      have behind : colon :: rest <:+ s := eq ▸ List.dropWhile_suffix _
      exact ((List.dropWhile_suffix _).trans (List.suffix_cons colon rest)).trans behind
    · cases found
  next => cases found

theorem afterScheme?_append {after : List Char} (found : afterScheme? s = some after)
    (some_ : after ≠ []) (x : List Char) : afterScheme? (s ++ x) = some (after ++ x) := by
  rw [afterScheme?] at found ⊢
  split at found
  next colon rest eq =>
    -- The colon that ends the scheme is the first one of the longer text as well.
    have stops : (colon != ':') = false := by
      have head := List.head?_dropWhile_not (· != ':') s
      rw [eq] at head
      simpa using head
    have mem : colon ∈ s := (List.dropWhile_suffix (· != ':')).mem (by rw [eq]; simp)
    obtain ⟨same, behind⟩ := takeWhile_append_of_mem (p := (· != ':')) mem stops x
    rw [behind, same, eq, List.cons_append]
    dsimp only
    split at found
    next scheme =>
      cases found
      rw [if_pos scheme, List.dropWhile_append, if_neg (by simpa using some_)]
    next => cases found
  next => cases found

/-! ## Targets -/

theorem target_eq {u : Url} (some_ : u.segments ≠ []) :
    u.target = u.segments.flatMap ('/' :: ·) ++
      (u.query.map ('?' :: ·)).getD [] := by
  rw [Url.target, cons_intercalate some_]
  cases u.query with
  | none => exact (List.append_nil _).symm
  | some q => rfl

/-- The path of a base URL ends with a slash. -/
theorem target_base (authority : List Char) (above : List (List Char)) :
    (Url.mk authority ([] :: above).reverse none).target =
      above.reverse.flatMap ('/' :: ·) ++ ['/'] := by
  rw [target_eq (by simp), List.reverse_cons, List.flatMap_append]
  exact List.append_nil _

/-- The query of a request, with its question mark, is that of the text, encoded. -/
theorem queryOf?_queryPart (x : List Char) :
    ((queryOf? (queryPart x)).map ('?' :: ·)).getD [] =
      Form.percentEncode isQueryPlain (queryPart x) := by
  have mark := List.head?_dropWhile_not (· != '?') (x.takeWhile (· != '#'))
  rw [queryPart]
  cases eq : (x.takeWhile (· != '#')).dropWhile (· != '?') with
  | nil => rfl
  | cons d q =>
    rw [eq] at mark
    have question : d = '?' := by simpa using mark
    subst question
    rw [Form.percentEncode_cons, if_pos (by rfl)]
    rfl

end Url

/-! ## Below a base URL -/

/-- Whether a client has a base URL of HTTP, without a query and without a fragment, and finds what it
asks for below some URL. -/
structure Client.IsPlain (c : Client) (u : Url) : Prop where
  /-- With a slash the base URL is a URL. -/
  read : Url.read? (c.url "") = some u
  /-- There is no query and no fragment. -/
  bare : ∀ d ∈ c.baseUrl.toList, d ≠ '?' ∧ d ≠ '#'

open Url

theorem Client.toList_url (c : Client) (path : String) :
    (c.url path).toList = c.baseUrl.toList ++ '/' :: path.toList.dropWhile (· == '/') := by
  have slash : "/".toList = ['/'] := rfl
  rw [Client.url, String.toList_append, String.toList_append, slash, String.toList_ofList,
    List.append_assoc, List.singleton_append]

/-- What a client asks for is found below its base URL, unless it leads up from there. -/
theorem Client.IsPlain.exists_read?_url {c : Client} {u : Url} (plain : c.IsPlain u) :
    ∃ above, u = ⟨u.authority, ([] :: above).reverse, none⟩ ∧
      ∀ path x, kept (path.toList.dropWhile (· == '/')) = x →
        Url.read? (c.url path) =
          some ⟨u.authority, walk above (splitOn isSlash (pathPart x)), queryOf? (queryPart x)⟩ := by
  obtain ⟨front, from_, cleaned⟩ := exists_clean c.baseUrl.toList
  have read := plain.read
  rw [read?_eq_bind, Client.toList_url, cleaned] at read
  obtain ⟨after, scheme, read⟩ := Option.bind_eq_some_iff.mp read
  have scheme' : afterScheme? (front ++ ['/']) = some after := scheme
  have suffix_ := suffix_of_afterScheme? scheme'
  have some_ : after ≠ [] := by
    rintro rfl
    cases read
  have ends : after.getLast? = some '/' := by
    obtain ⟨before, eq⟩ := suffix_
    rw [← List.getLast?_append_of_ne_nil before some_, eq, List.getLast?_concat]
  have bare : ∀ d ∈ after, d ≠ '?' ∧ d ≠ '#' := by
    intro d mem
    rcases List.mem_append.mp (suffix_.mem mem) with mem | mem
    · exact plain.bare d (from_ d mem)
    · rw [List.mem_singleton.mp mem]
      decide
  obtain ⟨above, u_eq, leads⟩ := exists_ofRest? ends bare read
  refine ⟨above, u_eq, fun path x x_eq => ?_⟩
  rw [read?_eq_bind, Client.toList_url, cleaned, x_eq, List.append_cons,
    afterScheme?_append scheme' some_, Option.bind_some, leads]

theorem Client.request?_eq_some {c : Client} {u : Url} {authorization : Option String}
    {path : String} (sends : c.authorization? = some authorization)
    (read : Url.read? (c.url path) = some u) (method : String) (change : Url → Url)
    (contentType : Option String) (body : String) :
    c.request? method path change contentType body =
      some ⟨method, String.ofList (change u).target, authorization, contentType, body⟩ := by
  rw [Client.request?, sends, read]
  rfl

/-- A base URL is taken without the slashes at its end. -/
theorem Client.toList_baseUrl {authority : List Char} (some_ : authority ≠ [])
    (inner : ∀ d ∈ authority, d ≠ '/') (path : List Char) (token : Option String) :
    (ofSettings (String.ofList ("http://".toList ++ (authority ++ path))) token).baseUrl.toList =
      "http://".toList ++ (authority ++ path.rdropWhile (· == '/')) := by
  obtain ⟨before, d, rfl⟩ := (List.eq_nil_or_concat authority).resolve_left some_
  have last : (d == '/') = false := beq_eq_false_iff_ne.mpr (inner d (by simp))
  show (String.ofList (List.rdropWhile _ (String.ofList _).toList)).toList = _
  rw [String.toList_ofList, String.toList_ofList, List.concat_eq_append, List.append_assoc,
    List.singleton_append, ← List.append_assoc, rdropWhile_append_cons (p := (· == '/')) last,
    List.append_assoc, List.append_assoc, List.singleton_append]

/-- The text of a path that ends with a slash is cleaned within. -/
theorem clean_base {authority path : List Char} (inner : ∀ d ∈ authority, isControl d = false) :
    clean ("http://".toList ++ (authority ++ (path ++ ['/']))) =
      "http://".toList ++ (authority ++ (path ++ ['/']).filter staysWithin) := by
  have front : ("http://".toList ++ (authority ++ (path ++ ['/']))).dropWhile isControl =
      ("http://".toList ++ authority ++ path) ++ '/' :: [] := by
    simp only [List.append_assoc]
    exact List.dropWhile_cons_of_neg (by decide)
  have solid : authority.filter staysWithin = authority := by
    refine List.filter_eq_self.mpr fun d mem => ?_
    have other := inner d mem
    simp only [staysWithin, Bool.and_eq_true, bne_iff_ne]
    refine ⟨⟨?_, ?_⟩, ?_⟩ <;> rintro rfl <;> cases other
  show List.filter staysWithin (List.rdropWhile isControl (List.dropWhile isControl _)) = _
  rw [front, rdropWhile_append_cons (by rfl), List.rdropWhile_nil, List.append_assoc,
    List.append_assoc, List.filter_append, List.filter_append, solid]
  rfl

/-- What follows the server in a base URL starts with a slash. -/
theorem exists_filter_path {path : List Char} (starts : path = [] ∨ path.head? = some '/') :
    ∃ dirs, (path.rdropWhile (· == '/') ++ ['/']).filter staysWithin = '/' :: dirs := by
  obtain ⟨rest, path_eq⟩ := List.rdropWhile_prefix (· == '/') path
  cases eq : path.rdropWhile (· == '/') with
  | nil => exact ⟨[], rfl⟩
  | cons d dirs =>
    rw [eq] at path_eq
    obtain rfl | slash := starts
    · cases path_eq
    · rw [← path_eq] at slash
      cases slash
      exact ⟨_, rfl⟩

theorem hostOf_append {authority : List Char}
    (inner : ∀ d ∈ authority, endsAuthority d = false ∧ d ≠ '@') (dirs : List Char) :
    hostOf (authority ++ '/' :: dirs) = authority := by
  have inside : ∀ d ∈ authority, (!endsAuthority d) = true := fun d mem => by
    rw [(inner d mem).1, Bool.not_false]
  have plain : ∀ d ∈ authority.reverse, (d != '@') = true := fun d mem =>
    bne_iff_ne.mpr (inner d (List.mem_reverse.mp mem)).2
  rw [hostOf, List.takeWhile_append_of_pos inside, List.takeWhile_cons_of_neg (by decide),
    List.append_nil, List.takeWhile_eq_self_iff.mpr plain, List.reverse_reverse]

theorem afterScheme?_http {authority : List Char} (some_ : authority ≠ [])
    (inner : ∀ d ∈ authority, endsAuthority d = false) (rest : List Char) :
    afterScheme? ("http://".toList ++ (authority ++ rest)) = some (authority ++ rest) := by
  obtain ⟨d, before, rfl⟩ := List.exists_cons_of_ne_nil some_
  have first := inner d List.mem_cons_self
  rw [endsAuthority, Bool.or_assoc, Bool.or_eq_false_iff] at first
  have stop : ¬isSlash d = true := by
    rw [first.1]
    exact Bool.false_ne_true
  have slashes : ∀ c ∈ ['/', '/'], isSlash c = true := List.all_eq_true.mp rfl
  show some ((['/', '/'] ++ _).dropWhile isSlash) = _
  rw [List.dropWhile_append_of_pos slashes, List.cons_append, List.dropWhile_cons_of_neg stop]

/-- **A server and a path make a plain base URL.** -/
theorem Client.exists_isPlain {authority path : List Char} (server : isAuthority authority = true)
    (inner : ∀ d ∈ authority, endsAuthority d = false ∧ isControl d = false ∧ d ≠ '@')
    (starts : path = [] ∨ path.head? = some '/') (bare : ∀ d ∈ path, d ≠ '?' ∧ d ≠ '#')
    (token : Option String) :
    ∃ u, (Client.ofSettings (String.ofList ("http://".toList ++ (authority ++ path))) token).IsPlain
      u := by
  have some_ : authority ≠ [] := by
    rintro rfl
    cases server
  have base := Client.toList_baseUrl some_ (by
    rintro d mem rfl
    cases (inner _ mem).1) path token
  obtain ⟨dirs, dirs_eq⟩ := exists_filter_path starts
  have host := hostOf_append (fun d mem => ⟨(inner d mem).1, (inner d mem).2.2⟩) dirs
  obtain ⟨u, read⟩ : ∃ u, ofRest? (authority ++ '/' :: dirs) = some u := by
    simp only [ofRest?, host, server, if_true]
    exact ⟨_, rfl⟩
  have scheme := afterScheme?_http some_ (fun d mem => (inner d mem).1) ('/' :: dirs)
  refine ⟨u, ?_, fun d mem => ?_⟩
  · rw [read?_eq_bind, Client.toList_url, base]
    simp only [List.append_assoc]
    show Option.bind (afterScheme? (clean (_ ++ (_ ++ (_ ++ ['/']))))) ofRest? = some u
    rw [clean_base fun d mem => (inner d mem).2.1, dirs_eq, scheme, Option.bind_some, read]
  · rw [base, List.mem_append, List.mem_append] at mem
    rcases mem with mem | mem | mem
    · exact bare_iff.mpr rfl d mem
    · have stays := (inner d mem).1
      constructor <;> rintro rfl <;> cases stays
    · exact bare d ((List.rdropWhile_prefix _ path).mem mem)

/-- Behind either scheme the same is asked for. -/
example : (Url.read? "HTTPS://localhost:5000/api").isSome ∧
    Url.read? "HTTPS://localhost:5000/api" = Url.read? "http://localhost:5000/api" := by
  decide +kernel

end Service
end CodeGloss
