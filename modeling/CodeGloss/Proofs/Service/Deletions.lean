import CodeGloss.Proofs.Service.Targets

/-!
# Which file a deletion names

To delete a file its id is put into a path as it is.  The path is then read as a part of a URL, where
some characters mean something: a number sign cuts the rest off, dots lead up, and an escape stands for
another character.  So a deletion names its file if and only if the id has nothing of that kind
(`IsVerbatim`, `exists_read_iff`).  Blanks, slashes, question marks and everything beyond ASCII do no
harm.

Annotations are asked for in a form, which any id survives (`exists_listing`, `exists_annotation`).
Both sides are put together in `deletion_names_file_iff`, and `deletion_of_another_file` is an id whose
file is not the one that gets deleted.

The proof that nothing else names its file is by lengths.  What is sent of an id is never more than the
id, and reading it back never makes it longer, so that whoever is to read the whole id must find nothing
dropped, no escape and no step that leads up.
-/

namespace CodeGloss
namespace Service

open Url
open Text (splitOn splitOn_ne_nil splitOn_cons)

variable {c : Client} {u : Url} {s : List Char}

/-! ## Ids that stand for themselves -/

/-- Whether an id is sent in a path as it is and read back from there. -/
structure IsVerbatim (s : List Char) : Prop where
  /-- Nothing of it is cut off or dropped. -/
  solid : ∀ d ∈ s, d ∉ ['#', '\t', '\n', '\r']
  /-- It does not end with a control character or a blank. -/
  ends : ∀ d ∈ s.getLast?, isControl d = false
  /-- No percent sign has two hexadecimal digits behind it. -/
  plain : Form.hasEscape s = false
  /-- In front of a question mark there is no backslash. -/
  slashes : '\\' ∉ s.takeWhile (· != '?')
  /-- In front of a question mark no step is a dot or a double dot. -/
  steps : ∀ step ∈ splitOn (· == '/') (s.takeWhile (· != '?')), step ≠ ['.'] ∧ step ≠ ['.', '.']

/-- Whether an id stands for itself can be told from its characters. -/
theorem isVerbatim_iff_all :
    IsVerbatim s ↔ (s.all fun d => !(['#', '\t', '\n', '\r'].contains d)) = true ∧
      (s.getLast?.all fun d => !isControl d) = true ∧ Form.hasEscape s = false ∧
      '\\' ∉ s.takeWhile (· != '?') ∧
      ((splitOn (· == '/') (s.takeWhile (· != '?'))).all fun step =>
        step != ['.'] && step != ['.', '.']) = true := by
  simp only [List.all_eq_true, Option.all_eq_true, Bool.not_eq_true', List.contains_eq_mem,
    decide_eq_false_iff_not, Bool.and_eq_true, bne_iff_ne]
  constructor
  · rintro ⟨solid, ends, plain, slashes, steps⟩
    exact ⟨solid, ends, plain, slashes, steps⟩
  · rintro ⟨solid, ends, plain, slashes, steps⟩
    exact ⟨solid, ends, plain, slashes, steps⟩

instance (s : List Char) : Decidable (IsVerbatim s) :=
  decidable_of_iff' _ isVerbatim_iff_all

/-- The path that is sent for an id. -/
def sentPath (s : List Char) : List Char :=
  pathPart (kept s)

/-- The query that is sent for an id. -/
def sentQuery (s : List Char) : List Char :=
  queryPart (kept s)

theorem sent_eq (s : List Char) :
    sentPath s ++ sentQuery s = (kept s).takeWhile (· != '#') :=
  List.takeWhile_append_dropWhile

theorem kept_sublist (s : List Char) : (kept s).Sublist s :=
  List.filter_sublist.trans (List.rdropWhile_prefix _ s).sublist

theorem sent_sublist (s : List Char) : (sentPath s ++ sentQuery s).Sublist s := by
  rw [sent_eq]
  exact (List.takeWhile_sublist _).trans (kept_sublist s)

theorem rdropWhile_eq_self_iff :
    s.rdropWhile isControl = s ↔ ∀ d ∈ s.getLast?, isControl d = false := by
  rw [List.rdropWhile_eq_self_iff]
  constructor
  · intro stays d last
    have some_ : s ≠ [] := by
      rintro rfl
      cases last
    rw [List.getLast?_eq_some_getLast some_] at last
    cases last
    exact Bool.eq_false_iff.mpr (stays some_)
  · intro ends some_
    exact Bool.eq_false_iff.mp (ends _ (List.getLast?_eq_some_getLast some_))

/-- What is kept of an id is all of it if nothing is dropped at its end or within. -/
theorem kept_eq_self_iff :
    kept s = s ↔
      (∀ d ∈ s, staysWithin d) ∧ ∀ d ∈ s.getLast?, isControl d = false := by
  rw [← rdropWhile_eq_self_iff]
  constructor
  · intro all
    have front : s.rdropWhile isControl = s := by
      refine (List.rdropWhile_prefix _ s).sublist.antisymm ?_
      conv_lhs => rw [← all]
      exact List.filter_sublist
    rw [kept, front, List.filter_eq_self] at all
    exact ⟨all, front⟩
  · rintro ⟨solid, front⟩
    rw [kept, front]
    exact List.filter_eq_self.mpr solid

/-- What is sent of an id is all of it if nothing is cut off or dropped. -/
theorem sent_eq_self_iff :
    sentPath s ++ sentQuery s = s ↔
      (∀ d ∈ s, d ∉ ['#', '\t', '\n', '\r']) ∧ ∀ d ∈ s.getLast?, isControl d = false := by
  have split : (∀ d ∈ s, d ∉ ['#', '\t', '\n', '\r']) ↔
      (∀ d ∈ s, d != '#') ∧ ∀ d ∈ s, staysWithin d := by
    rw [← forall₂_and]
    refine forall₂_congr fun d _ => ?_
    simp [staysWithin, and_assoc]
  rw [sent_eq, split, and_assoc, ← kept_eq_self_iff, ← List.takeWhile_eq_self_iff]
  constructor
  · intro all
    have kept_eq : kept s = s := by
      refine (kept_sublist s).antisymm ?_
      conv_lhs => rw [← all]
      exact List.takeWhile_sublist _
    rw [kept_eq] at all
    exact ⟨all, kept_eq⟩
  · rintro ⟨all, kept_eq⟩
    rw [kept_eq, all]

/-- An id stands for itself if all of it is sent, as it is, and nothing leads up from it. -/
theorem isVerbatim_iff :
    IsVerbatim s ↔ sentPath s ++ sentQuery s = s ∧ Form.hasEscape s = false ∧
      slashed (sentPath s) = sentPath s ∧ ∀ step ∈ splitOn isSlash (sentPath s), ¬IsDots step := by
  have path_eq : sentPath s = (sentPath s ++ sentQuery s).takeWhile (· != '?') := by
    rw [sent_eq]
    rfl
  have steps_iff : Form.hasEscape s = false → '\\' ∉ s.takeWhile (· != '?') →
      ((∀ step ∈ splitOn isSlash (s.takeWhile (· != '?')), ¬IsDots step) ↔
        ∀ step ∈ splitOn (· == '/') (s.takeWhile (· != '?')), step ≠ ['.'] ∧ step ≠ ['.', '.']) := by
    intro plain slashes
    have front : Form.hasEscape (s.takeWhile (· != '?')) = false := by
      refine Bool.eq_false_iff.mpr fun escape => ?_
      have whole := Form.hasEscape_append (t := s.dropWhile (· != '?')) (.inl escape)
      rw [List.takeWhile_append_dropWhile, plain] at whole
      cases whole
    have same : splitOn isSlash (s.takeWhile (· != '?')) =
        splitOn (· == '/') (s.takeWhile (· != '?')) := by
      refine splitOn_congr fun d mem => ?_
      have other : (d == '\\') = false := beq_eq_false_iff_ne.mpr fun back => slashes (back ▸ mem)
      rw [isSlash, other, Bool.or_false]
    rw [← same]
    refine forall₂_congr fun step mem => ?_
    rw [isDots_iff_of_plain front slashes mem, not_or]
  constructor
  · intro verbatim
    have all := sent_eq_self_iff.mpr ⟨verbatim.solid, verbatim.ends⟩
    rw [all] at path_eq
    refine ⟨all, verbatim.plain, ?_, ?_⟩
    · rw [path_eq]
      exact slashed_eq_self_iff.mpr verbatim.slashes
    · rw [path_eq]
      exact (steps_iff verbatim.plain verbatim.slashes).mpr verbatim.steps
  · rintro ⟨all, plain, slashes, steps⟩
    rw [all] at path_eq
    rw [path_eq] at slashes steps
    have slashes' := slashed_eq_self_iff.mp slashes
    obtain ⟨solid, ends⟩ := sent_eq_self_iff.mp all
    exact ⟨solid, ends, plain, slashes', (steps_iff plain slashes').mp steps⟩

/-! ## What is read back -/

/-- The bytes of what is sent are fewer if it is less. -/
theorem eq_or_length_bytes_lt {t : List Char} (sub : s.Sublist t) :
    s = t ∨ (Form.bytes s).length < (Form.bytes t).length := by
  induction sub with
  | slnil => exact .inl rfl
  | @cons s t d sub ih =>
    have pos := Form.length_utf8EncodeChar_pos d
    have le : (Form.bytes s).length ≤ (Form.bytes t).length :=
      ih.elim (fun same => same ▸ Nat.le_refl _) Nat.le_of_lt
    rw [Form.bytes_cons, List.length_append]
    exact .inr (by omega)
  | @cons_cons s t d sub ih =>
    rw [Form.bytes_cons, Form.bytes_cons, List.length_append, List.length_append]
    exact ih.imp (congrArg (d :: ·)) fun lt => Nat.add_lt_add_left lt _

theorem isApart_mark : Form.IsApart '?' :=
  ⟨by decide, rfl⟩

/-- A query that is sent starts with a question mark, which stands for itself. -/
theorem head?_sentQuery (s : List Char) : ∀ d ∈ (sentQuery s).head?, d = '?' := by
  have mark := List.head?_dropWhile_not (· != '?') ((kept s).takeWhile (· != '#'))
  intro d first
  rw [sentQuery, queryPart] at first
  rw [Option.mem_def.mp first] at mark
  simpa using mark

theorem isApart_sentQuery (s : List Char) : ∀ d ∈ (sentQuery s).head?, Form.IsApart d :=
  fun d first => head?_sentQuery s d first ▸ isApart_mark

theorem isApart_percentEncode_sentQuery (s : List Char) :
    ∀ d ∈ (Form.percentEncode isQueryPlain (sentQuery s)).head?, Form.IsApart d := by
  have first := head?_sentQuery s
  cases eq : sentQuery s with
  | nil => nofun
  | cons d q =>
    rw [eq] at first
    rw [first d rfl]
    rintro _ ⟨⟩
    exact isApart_mark

/-- The target of a deletion, below some directories. -/
def targetBelow (above : List (List Char)) (s : List Char) : List Char :=
  (walk above (splitOn isSlash (sentPath s))).flatMap ('/' :: ·) ++
    Form.percentEncode isQueryPlain (sentQuery s)

/-- What a target stands for is at most as long as the directories and the id. -/
theorem length_decodeBytes_targetBelow (above : List (List Char)) (s : List Char) :
    (Form.decodeBytes (targetBelow above s)).length =
      weight (walk above (splitOn isSlash (sentPath s))) +
        (Form.decodeBytes (sentQuery s)).length := by
  rw [targetBelow, Form.decodeBytes_append (isApart_percentEncode_sentQuery s), List.length_append,
    length_decodeBytes_flatMap, Form.decodeBytes_percentEncode keepsEscapes_isQueryPlain]

theorem weight_splitOn (s : List Char) :
    weight (splitOn isSlash s) = (Form.decodeBytes (slashed s)).length + 1 := by
  rw [← length_decodeBytes_flatMap, flatMap_splitOn, Form.decodeBytes_cons (.inl isApart_slash.1),
    List.length_append, Nat.add_comm]
  rfl

/-- Where no step leads up, an id follows the directories. -/
theorem targetBelow_of_names (names : ∀ step ∈ splitOn isSlash (sentPath s), ¬IsDots step)
    (above : List (List Char)) :
    targetBelow above s = above.reverse.flatMap ('/' :: ·) ++
      '/' :: (Form.percentEncode isPathPlain (slashed (sentPath s)) ++
        Form.percentEncode isQueryPlain (sentQuery s)) := by
  rw [targetBelow, walk_of_names (splitOn_ne_nil _ _) names, List.flatMap_append,
    percentEncode_flatMap, flatMap_splitOn, List.append_assoc]
  rfl

/-- What is read back from an id that follows the directories. -/
theorem decodeBytes_sent (s : List Char) :
    Form.decodeBytes (Form.percentEncode isPathPlain (slashed (sentPath s)) ++
        Form.percentEncode isQueryPlain (sentQuery s)) =
      Form.decodeBytes (slashed (sentPath s)) ++ Form.decodeBytes (sentQuery s) := by
  rw [Form.decodeBytes_append (isApart_percentEncode_sentQuery s),
    Form.decodeBytes_percentEncode keepsEscapes_isPathPlain,
    Form.decodeBytes_percentEncode keepsEscapes_isQueryPlain]

/-- As much as is sent of an id is read back at most. -/
theorem length_decodeBytes_sent_le (s : List Char) :
    (Form.decodeBytes (slashed (sentPath s))).length ≤ (Form.bytes (sentPath s)).length ∧
      (Form.decodeBytes (sentQuery s)).length ≤ (Form.bytes (sentQuery s)).length ∧
      (Form.bytes (sentPath s)).length + (Form.bytes (sentQuery s)).length ≤
        (Form.bytes s).length := by
  refine ⟨?_, Form.length_decodeBytes_le _, ?_⟩
  · rw [← length_bytes_slashed]
    exact Form.length_decodeBytes_le _
  · rw [← List.length_append, ← Form.bytes_append]
    rcases eq_or_length_bytes_lt (sent_sublist s) with all | less
    · rw [all]
    · exact Nat.le_of_lt less

/-- An id of which everything is read back stands for itself, if no step of it leads up. -/
theorem isVerbatim_of_decodeBytes
    (names : ∀ step ∈ splitOn isSlash (sentPath s), ¬IsDots step)
    (reads : Form.decodeBytes (slashed (sentPath s)) ++ Form.decodeBytes (sentQuery s) =
      Form.bytes s) : IsVerbatim s := by
  obtain ⟨path_le, query_le, sent_le⟩ := length_decodeBytes_sent_le s
  have size := congrArg List.length reads
  rw [List.length_append] at size
  have all : sentPath s ++ sentQuery s = s := by
    refine (eq_or_length_bytes_lt (sent_sublist s)).resolve_right fun less => ?_
    rw [Form.bytes_append, List.length_append] at less
    omega
  have path_plain : Form.hasEscape (slashed (sentPath s)) = false := by
    refine Bool.eq_false_iff.mpr fun escape => ?_
    have less := Form.length_decodeBytes_lt escape
    rw [length_bytes_slashed] at less
    omega
  have query_plain : Form.hasEscape (sentQuery s) = false := by
    refine Bool.eq_false_iff.mpr fun escape => ?_
    have less := Form.length_decodeBytes_lt escape
    omega
  have same : slashed (sentPath s) = sentPath s := by
    rw [Form.decodeBytes_of_hasEscape_eq_false path_plain,
      Form.decodeBytes_of_hasEscape_eq_false query_plain, ← Form.bytes_append] at reads
    exact List.append_cancel_right ((Form.bytes_inj reads).trans all.symm)
  have plain : Form.hasEscape s = false := by
    refine Bool.eq_false_iff.mpr fun escape => ?_
    have less := Form.length_decodeBytes_lt escape
    rw [same, ← Form.decodeBytes_append (isApart_sentQuery s), all] at reads
    rw [reads] at less
    exact absurd less (Nat.lt_irrefl _)
  exact isVerbatim_iff.mpr ⟨all, plain, same, names⟩

/-- An id is read back from behind the directories if and only if it stands for itself. -/
theorem exists_read_iff (above : List (List Char)) (s : List Char) :
    (∃ rest, targetBelow above s = above.reverse.flatMap ('/' :: ·) ++ '/' :: rest ∧
        Form.decodeBytes rest = Form.bytes s) ↔ IsVerbatim s := by
  constructor
  · rintro ⟨rest, target, reads⟩
    have names : ∀ step ∈ splitOn isSlash (sentPath s), ¬IsDots step := by
      intro step mem dots
      -- With dots the target would be too short for the directories and the whole id.
      have less := weight_walk_lt above ⟨step, mem, dots⟩
      obtain ⟨path_le, query_le, sent_le⟩ := length_decodeBytes_sent_le s
      have size := length_decodeBytes_targetBelow above s
      have slash : ∀ d ∈ ('/' :: rest).head?, Form.IsApart d := by
        rintro _ ⟨⟩
        exact isApart_slash
      rw [target, Form.decodeBytes_append slash, Form.decodeBytes_cons (.inl isApart_slash.1), reads,
        List.length_append, List.length_append, length_decodeBytes_flatMap, weight_reverse] at size
      have one : (String.utf8EncodeChar '/').length = 1 := rfl
      rw [weight_splitOn] at less
      omega
    rw [targetBelow_of_names names] at target
    have rest_eq := List.append_cancel_left target
    rw [List.cons.injEq] at rest_eq
    rw [← rest_eq.2, decodeBytes_sent] at reads
    exact isVerbatim_of_decodeBytes names reads
  · intro verbatim
    obtain ⟨all, plain, same, names⟩ := isVerbatim_iff.mp verbatim
    refine ⟨_, targetBelow_of_names names above, ?_⟩
    rw [decodeBytes_sent, same, ← Form.decodeBytes_append (isApart_sentQuery s), all,
      Form.decodeBytes_of_hasEscape_eq_false plain]

/-! ## Requests -/

/-- What a deletion asks for. -/
theorem exists_deletion (plain : c.IsPlain u) {authorization : Option String}
    (sends : c.authorization? = some authorization) :
    ∃ above, u.target = above.reverse.flatMap ('/' :: ·) ++ ['/'] ∧ ∀ fileId : String,
      ∃ r, (deleteFile fileId).request? c = some r ∧ r.method = "DELETE" ∧
        r.target.toList = targetBelow ("file".toList :: above) fileId.toList := by
  obtain ⟨above, u_eq, leads⟩ := plain.exists_read?_url
  refine ⟨above, ?_, fun fileId => ?_⟩
  · rw [u_eq]
    exact target_base _ above
  · have text_eq : ("file/" ++ fileId).toList.dropWhile (· == '/') =
        "file".toList ++ '/' :: fileId.toList := by
      rw [String.toList_append]
      rfl
    have x_eq : kept ("file".toList ++ '/' :: fileId.toList) =
        "file/".toList ++ kept fileId.toList := by
      rw [kept, rdropWhile_append_cons (by rfl), List.filter_append]
      rfl
    have bare : ∀ d ∈ "file/".toList, d ≠ '?' ∧ d ≠ '#' := bare_iff.mpr rfl
    have path : pathPart ("file/".toList ++ kept fileId.toList) =
        "file".toList ++ '/' :: sentPath fileId.toList := pathPart_append bare _
    have query : queryPart ("file/".toList ++ kept fileId.toList) = sentQuery fileId.toList :=
      queryPart_append bare _
    have pieces : splitOn isSlash ("file".toList ++ '/' :: sentPath fileId.toList) =
        ["file".toList] ++ splitOn isSlash (sentPath fileId.toList) := by
      rw [Text.splitOn_append (by rfl)]
      rfl
    have down : ["file".toList].foldl descend above = "file".toList :: above := rfl
    have read := leads ("file/" ++ fileId) _ (text_eq ▸ x_eq)
    refine ⟨_, Client.request?_eq_some sends read _ _ _ _, rfl, ?_⟩
    dsimp only
    rw [String.toList_ofList, id_eq, target_eq (walk_ne_nil (splitOn_ne_nil _ _) above)]
    dsimp only
    rw [queryOf?_queryPart, path, query, pieces, walk_append (splitOn_ne_nil _ _), down, targetBelow]

/-- Whether a target is read back as an id behind the path of a base URL and `file/`. -/
def NamesFile (u : Url) (target fileId : String) : Prop :=
  ∃ rest, target.toList = u.target ++ ("file/".toList ++ rest) ∧
    Form.percentDecode? rest = some fileId

/-- A deletion is sent for every id, and names its file exactly if the id stands for itself. -/
theorem exists_deletion_iff (plain : c.IsPlain u) {authorization : Option String}
    (sends : c.authorization? = some authorization) (fileId : String) :
    ∃ r, (deleteFile fileId).request? c = some r ∧ r.method = "DELETE" ∧
      (NamesFile u r.target fileId ↔ IsVerbatim fileId.toList) := by
  obtain ⟨above, base, asks⟩ := exists_deletion plain sends
  obtain ⟨r, sent, method, target⟩ := asks fileId
  refine ⟨r, sent, method, ?_⟩
  rw [NamesFile, target, base, ← exists_read_iff ("file".toList :: above)]
  refine exists_congr fun rest => and_congr ?_ Form.percentDecode?_eq_some_iff
  have front : (above.reverse.flatMap ('/' :: ·) ++ ['/'] ++ ("file/".toList ++ rest)) =
      ("file".toList :: above).reverse.flatMap ('/' :: ·) ++ '/' :: rest := by
    rw [List.reverse_cons, List.flatMap_append, List.append_assoc, List.append_assoc]
    rfl
  rw [front]

/-- Behind a base URL and `file/` no two ids are read back from one target. -/
theorem eq_of_namesFile {target fileId other : String} (names : NamesFile u target fileId)
    (names' : NamesFile u target other) : fileId = other := by
  obtain ⟨rest, eq, reads⟩ := names
  obtain ⟨rest', eq', reads'⟩ := names'
  have same := List.append_cancel_left (List.append_cancel_left (eq.symm.trans eq'))
  rw [same, reads'] at reads
  exact (Option.some.inj reads).symm

/-- Where annotations are asked for. -/
theorem exists_annotationUrl (plain : c.IsPlain u) :
    ∃ url, Url.read? (c.url "annotation/generate") = some url ∧ url.query = none ∧
      url.segments ≠ [] ∧
      url.segments.flatMap ('/' :: ·) = u.target ++ "annotation/generate".toList := by
  obtain ⟨above, u_eq, leads⟩ := plain.exists_read?_url
  have read := leads "annotation/generate" "annotation/generate".toList (by decide)
  have pieces : splitOn isSlash (pathPart "annotation/generate".toList) =
      ["annotation".toList, "generate".toList] := by decide
  have names : ∀ step ∈ ["annotation".toList, "generate".toList], ¬IsDots step := by decide
  have some_ : ["annotation".toList, "generate".toList] ≠ [] := List.cons_ne_nil _ _
  rw [pieces, walk_of_names some_ names] at read
  refine ⟨_, read, rfl, by simp, ?_⟩
  rw [u_eq, target_base, List.flatMap_append, List.append_assoc]
  rfl

theorem encode_ampersand (text : String) : '&' ∉ Form.encode text := by
  intro mem
  rcases Form.mem_encode mem with eq | eq | plain
  · cases eq
  · cases eq
  · cases plain

/-- The annotations of every file are asked for under its own id. -/
theorem exists_listing (plain : c.IsPlain u) {authorization : Option String}
    (sends : c.authorization? = some authorization) (fileId : String) :
    ∃ r value, (glossesOf fileId).request? c = some r ∧ r.method = "GET" ∧
      r.target.toList = u.target ++ ("annotation/generate?file_uuid=".toList ++ value) ∧
      '&' ∉ value ∧ Form.decode? value = some fileId := by
  obtain ⟨url, read, none_, some_, path⟩ := exists_annotationUrl plain
  refine ⟨_, Form.encode fileId, Client.request?_eq_some sends read _ _ _ _, rfl, ?_,
    encode_ampersand fileId, Form.decode?_encode fileId⟩
  have query : Url.withParameter "file_uuid" fileId url =
      { url with query := some (Form.field "file_uuid" fileId) } := by
    rw [Url.withParameter, none_]
  have name : Form.encode "file_uuid" = "file_uuid".toList := by decide
  rw [String.toList_ofList, query, target_eq (by exact some_)]
  dsimp only
  rw [path, Form.field, name, List.append_assoc]
  rfl

/-- An annotation of every file is asked for under its own id. -/
theorem exists_annotation (plain : c.IsPlain u) {authorization : Option String}
    (sends : c.authorization? = some authorization) (fileId code : String) :
    ∃ r value rest, (annotate fileId code).request? c = some r ∧ r.method = "POST" ∧
      r.body.toList = "file_uuid=".toList ++ (value ++ '&' :: rest) ∧
      '&' ∉ value ∧ Form.decode? value = some fileId := by
  obtain ⟨url, read, -⟩ := exists_annotationUrl plain
  refine ⟨_, Form.encode fileId, Form.field "code" code,
    Client.request?_eq_some sends read _ _ _ _, rfl, ?_,
    encode_ampersand fileId, Form.decode?_encode fileId⟩
  have name : Form.encode "file_uuid" = "file_uuid".toList := by decide
  show (String.ofList (Form.fields _)).toList = _
  rw [String.toList_ofList, Form.fields]
  simp [List.intercalate, Form.field, name]

/-- **A deletion names its file exactly if the id stands for itself in a path.**  Ids that do are told
apart by what is asked for.  Requests for the annotations of a file carry its id whatever it is. -/
theorem deletion_names_file_iff (plain : c.IsPlain u) (sends : c.authorization?.isSome)
    (fileId : String) :
    (∃ r, (deleteFile fileId).request? c = some r ∧ r.method = "DELETE" ∧
      (NamesFile u r.target fileId ↔ IsVerbatim fileId.toList)) ∧
    (∀ other r r', IsVerbatim fileId.toList → IsVerbatim other.toList → fileId ≠ other →
      (deleteFile fileId).request? c = some r → (deleteFile other).request? c = some r' →
      r.target ≠ r'.target) ∧
    (∃ r value, (glossesOf fileId).request? c = some r ∧ r.method = "GET" ∧
      r.target.toList = u.target ++ ("annotation/generate?file_uuid=".toList ++ value) ∧
      '&' ∉ value ∧ Form.decode? value = some fileId) ∧
    ∀ code, ∃ r value rest, (annotate fileId code).request? c = some r ∧ r.method = "POST" ∧
      r.body.toList = "file_uuid=".toList ++ (value ++ '&' :: rest) ∧
      '&' ∉ value ∧ Form.decode? value = some fileId := by
  obtain ⟨authorization, sends⟩ := Option.isSome_iff_exists.mp sends
  refine ⟨exists_deletion_iff plain sends fileId, ?_, exists_listing plain sends fileId,
    exists_annotation plain sends fileId⟩
  intro other r r' verbatim verbatim' apart sent sent' same
  obtain ⟨_, eq, -, names⟩ := exists_deletion_iff plain sends fileId
  obtain ⟨_, eq', -, names'⟩ := exists_deletion_iff plain sends other
  cases eq.symm.trans sent
  cases eq'.symm.trans sent'
  exact apart (eq_of_namesFile (names.mpr verbatim) (same ▸ names'.mpr verbatim'))

/-- The client for a server of its own. -/
def localClient : Client :=
  Client.ofSettings "http://localhost:5000/api/v1/" (some "secret")

/-- Where that client finds what it asks for. -/
def localUrl : Url :=
  ⟨"localhost:5000".toList, ["api".toList, "v1".toList, []], none⟩

theorem isPlain_local : localClient.IsPlain localUrl :=
  ⟨by decide +kernel, bare_iff.mpr (by decide +kernel)⟩

/-- An id with a blank, a slash, a letter of two bytes and a percent sign stands for itself. -/
theorem deletion_names_file_beyond_ascii :
    localClient.IsPlain localUrl ∧ localClient.authorization?.isSome ∧
      IsVerbatim "a b/é%".toList ∧
      ∃ r, (deleteFile "a b/é%").request? localClient = some r ∧
        NamesFile localUrl r.target "a b/é%" := by
  have sends : localClient.authorization?.isSome := by decide +kernel
  have verbatim : IsVerbatim "a b/é%".toList := by decide
  obtain ⟨⟨r, sent, -, names⟩, -⟩ := deletion_names_file_iff isPlain_local sends "a b/é%"
  exact ⟨isPlain_local, sends, verbatim, r, sent, names.mpr verbatim⟩

/-- Whoever deletes the file `u1#a` asks for `u1` to be deleted. -/
theorem deletion_of_another_file :
    "u1" ≠ "u1#a" ∧ localClient.IsPlain localUrl ∧
      ((deleteFile "u1").request? localClient).map (·.target) = some "/api/v1/file/u1" ∧
      ((deleteFile "u1#a").request? localClient).map (·.target) = some "/api/v1/file/u1" :=
  ⟨by decide, isPlain_local, by decide +kernel, by decide +kernel⟩

/-- A double dot asks for everything above to be deleted. -/
example : ((deleteFile "..").request? localClient).map (·.target) = some "/api/v1/" := by
  decide +kernel

end Service
end CodeGloss
