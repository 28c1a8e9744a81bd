import CodeGloss.Proofs.Files.Alike
import CodeGloss.Proofs.Text.Lines

/-!
# Paths that are put together

The path of something below a directory is the path of the directory with the names below put behind
it, and leads there (`Disk.resolve_join`).  Whatever way a path takes to a file, it ends with the name
that the file has in its directory (`Disk.exists_pieces_of_file`), which says all that a path says about
a file by its text alone (`Path.fileName?_of_pieces`).
-/

namespace CodeGloss

namespace Path

/-! ## Texts -/

theorem pieces_slash (front back : String) :
    pieces (front ++ "/" ++ back) = pieces front ++ pieces back := by
  have text : (front ++ "/" ++ back).toList = front.toList ++ '/' :: back.toList := by simp
  rw [pieces, text, Text.splitOn_append (by rfl), List.map_append]
  rfl

theorem isAbsolute_append {front : String} (absolute : isAbsolute front = true) (back : String) :
    isAbsolute (front ++ back) = true := by
  unfold isAbsolute at absolute ⊢
  rw [String.toList_append, List.head?_append]
  rw [beq_iff_eq] at absolute ⊢
  rw [absolute]
  rfl

theorem isAbsolute_append_of_ne {front : String} (full : front.isEmpty = false) (back : String) :
    isAbsolute (front ++ back) = isAbsolute front := by
  have some_ : front.toList ≠ [] := by
    intro empty
    rw [String.toList_eq_nil_iff.mp empty] at full
    cases full
  unfold isAbsolute
  rw [String.toList_append, List.head?_append_of_ne_nil _ some_]

/-- Below an absolute path all paths are absolute. -/
theorem isAbsolute_join {dir : String} (absolute : isAbsolute dir = true) (below : String) :
    isAbsolute (join dir below) = true := by
  unfold join
  split
  next at_root => exact at_root
  next =>
    split
    · exact isAbsolute_append absolute below
    · exact isAbsolute_append (isAbsolute_append absolute "/") below

/-! ## Names -/

theorem pieces_of_not_mem {name : String} (whole : '/' ∉ name.toList) : pieces name = [name] := by
  have plain : ∀ c ∈ name.toList, (c == '/') = false := fun c mem =>
    beq_eq_false_iff_ne.mpr fun slash => whole (slash ▸ mem)
  have alone := Text.splitOn_append_of_not (p := (· == '/')) plain []
  rw [List.append_nil, Text.splitOn_nil] at alone
  rw [pieces, alone]
  show [String.ofList (name.toList ++ [])] = _
  rw [List.append_nil, String.ofList_toList]

/-- Names with slashes between them are a path with those names. -/
theorem pieces_intercalate {names : List String} (some_ : names ≠ [])
    (whole : ∀ name ∈ names, '/' ∉ name.toList) : pieces ("/".intercalate names) = names := by
  induction names with
  | nil => exact absurd rfl some_
  | cons name names ih =>
    obtain ⟨first, others⟩ := List.forall_mem_cons.mp whole
    by_cases last : names = []
    · rw [last, String.intercalate_singleton, pieces_of_not_mem first]
    · rw [String.intercalate_cons_of_ne_nil last, pieces_slash, pieces_of_not_mem first,
        ih last others, List.singleton_append]

/-- A path starts at the root if there is nothing in front of its first slash. -/
theorem isAbsolute_eq_false_of_pieces {path name : String} {rest : List String}
    (pieces_eq : pieces path = name :: rest) (full : name ≠ "") : isAbsolute path = false := by
  rw [isAbsolute, beq_eq_false_iff_ne]
  intro starts
  obtain ⟨s, eq⟩ := List.head?_eq_some_iff.mp starts
  rw [pieces, eq, Text.splitOn_cons, if_pos (by rfl), List.map_cons, List.cons.injEq] at pieces_eq
  exact full pieces_eq.1.symm

/-! ## Joining -/

/-- A path that is joined to another one follows a slash, which may be there already. -/
theorem exists_join_eq {dir below : String} (full : dir.isEmpty = false)
    (relative : isAbsolute below = false) :
    ∃ front, join dir below = front ++ "/" ++ below ∧ (front = dir ∨ front ++ "/" = dir) := by
  rw [join, relative, if_neg Bool.false_ne_true, full, Bool.false_or]
  split
  next slash =>
    obtain ⟨s, ends⟩ := List.getLast?_eq_some_iff.mp (beq_iff_eq.mp slash)
    have dir_eq : String.ofList s ++ "/" = dir := by
      rw [← String.toList_inj, ends, String.toList_append, String.toList_ofList]
      rfl
    exact ⟨String.ofList s, by rw [dir_eq], .inr dir_eq⟩
  next => exact ⟨dir, rfl, .inl rfl⟩

theorem isAbsolute_join_of_relative {dir below : String} (full : dir.isEmpty = false)
    (relative : isAbsolute below = false) : isAbsolute (join dir below) = isAbsolute dir := by
  rw [join, relative, if_neg Bool.false_ne_true]
  split
  · exact isAbsolute_append_of_ne full _
  · rw [String.append_assoc]
    exact isAbsolute_append_of_ne full _

/-! ## Names at the end -/

/-- The name of a file is the one that its path ends with. -/
theorem fileName?_of_pieces {path name : String} {above : List String}
    (pieces_eq : pieces path = above ++ [name]) (named : Disk.IsName name) :
    fileName? path = some name := by
  obtain ⟨full, plain, proper⟩ := named
  have last : Component.ofPiece? name = some (.entry name) := by
    unfold Component.ofPiece?
    split
    next => exact absurd rfl full
    next => exact absurd rfl plain
    next => exact absurd rfl proper
    next => rfl
  rw [fileName?, components, pieces_eq, List.filterMap_append, List.filterMap_cons_some last,
    List.filterMap_nil, ← List.append_assoc, List.getLast?_concat]

end Path

namespace Disk

variable {disk : Disk} {path dir : String} {place names : List String}

/-! ## Going down -/

/-- Names lead down to what is there. -/
theorem follow_names (named : ∀ name ∈ names, IsName name)
    (there : (disk.tree.find? (place ++ names)).isSome) :
    disk.follow place names = .ok (place ++ names) := by
  induction names generalizing place with
  | nil => rw [follow, List.append_nil]
  | cons name names ih =>
    obtain ⟨first, others⟩ := List.forall_mem_cons.mp named
    rw [List.append_cons] at there ⊢
    have here : (disk.tree.find? (place ++ [name])).isSome := by
      rw [FileTree.find?_append] at there
      exact Option.isSome_of_isSome_bind there
    obtain ⟨sub, found⟩ := Option.isSome_iff_exists.mp here
    rw [← List.singleton_append, follow_append, follow_name first found]
    exact ih others there

theorem exists_follow_of_resolve (leads : disk.resolve path = .ok place) :
    path.isEmpty = false ∧ disk.follow (disk.origin path) (Path.pieces path) = .ok place := by
  rw [resolve] at leads
  split at leads
  next => cases leads
  next full => exact ⟨Bool.not_eq_true _ ▸ full, leads⟩

/-- **Below a directory a path leads to what its names say.** -/
theorem resolve_join (leads : disk.resolve dir = .ok place) (some_ : names ≠ [])
    (named : ∀ name ∈ names, FileTree.IsEntryName name)
    (there : (disk.tree.find? (place ++ names)).isSome) :
    disk.resolve (Path.join dir ("/".intercalate names)) = .ok (place ++ names) := by
  obtain ⟨full, leads⟩ := exists_follow_of_resolve leads
  have below := Path.pieces_intercalate some_ fun name mem => (named name mem).2
  have down := follow_names (fun name mem => (named name mem).1) there
  obtain ⟨first, rest, eq⟩ := List.exists_cons_of_ne_nil some_
  have relative := Path.isAbsolute_eq_false_of_pieces (below.trans eq)
    (named first (eq ▸ List.mem_cons_self)).1.1
  obtain ⟨front, join_eq, same⟩ := Path.exists_join_eq full relative
  -- A slash at the end of the directory leads no further.
  have start : disk.follow (disk.origin dir) (Path.pieces front) = .ok place := by
    rcases same with rfl | rfl
    · exact leads
    · have pieces : Path.pieces (front ++ "/") = Path.pieces front ++ [""] := by
        rw [← String.append_empty (s := front ++ "/"), Path.pieces_slash]
        rfl
      exact follow_of_slash (pieces ▸ leads)
  have origin_eq : disk.origin (Path.join dir ("/".intercalate names)) = disk.origin dir := by
    rw [origin, origin, Path.isAbsolute_join_of_relative full relative]
  have some' : (Path.join dir ("/".intercalate names)).isEmpty = false := by
    rw [join_eq]
    simp
  rw [resolve, some', if_neg Bool.false_ne_true, origin_eq, join_eq, Path.pieces_slash,
    follow_append, start, below]
  exact down

/-! ## Files by name -/

theorem holdsDirectory_dropLast (holds : disk.holdsDirectory place = true) :
    disk.holdsDirectory place.dropLast = true := by
  rcases List.eq_nil_or_concat place with rfl | ⟨above, name, rfl⟩
  · exact holds
  · obtain ⟨entries, found⟩ := holdsDirectory_eq_true_iff.mp holds
    rw [List.concat_eq_append, FileTree.find?_append] at found
    obtain ⟨sub, there, entry⟩ := Option.bind_eq_some_iff.mp found
    rw [List.concat_eq_append, List.dropLast_concat]
    cases sub with
    | file content => cases entry
    | directory es => exact holdsDirectory_eq_true_iff.mpr ⟨es, there⟩

/-- One step from a place leads to a directory or to an entry by its name. -/
theorem follow_singleton {step : String} {goal : List String}
    (leads : disk.follow place [step] = .ok goal) :
    disk.holdsDirectory goal = true ∨ IsName step ∧ goal = place ++ [step] := by
  rw [follow] at leads
  split at leads
  next => cases leads
  next => cases leads
  next entries found =>
    have holds : disk.holdsDirectory place = true := holdsDirectory_eq_true_iff.mpr ⟨_, found⟩
    simp only [follow] at leads
    split at leads
    next =>
      cases leads
      exact .inl holds
    next moves =>
      split at leads
      next =>
        cases leads
        exact .inl (holdsDirectory_dropLast holds)
      next down =>
        split at leads
        next =>
          cases leads
          rw [Bool.or_eq_true, beq_iff_eq, beq_iff_eq, not_or] at moves
          exact .inr ⟨⟨moves.1, moves.2, fun up => down (beq_iff_eq.mpr up)⟩, rfl⟩
        next => cases leads

/-- **A path to a file ends with the name of the file.** -/
theorem exists_pieces_of_file {content : ByteArray} (leads : disk.resolve path = .ok place)
    (found : disk.tree.find? place = some (.file content)) :
    ∃ above parent name, Path.pieces path = above ++ [name] ∧ IsName name ∧
      place = parent ++ [name] := by
  obtain ⟨-, leads⟩ := exists_follow_of_resolve leads
  obtain ⟨above, name, pieces⟩ : ∃ above name, Path.pieces path = above ++ [name] := by
    have some_ : Path.pieces path ≠ [] := by
      rw [Path.pieces, Ne, List.map_eq_nil_iff]
      exact Text.splitOn_ne_nil _ _
    obtain ⟨above, name, eq⟩ := (List.eq_nil_or_concat _).resolve_left some_
    exact ⟨above, name, eq.trans (List.concat_eq_append ..)⟩
  rw [pieces, follow_append] at leads
  split at leads
  next parent _ =>
    rcases follow_singleton leads with holds | ⟨named, place_eq⟩
    · rw [holdsDirectory, found] at holds
      cases holds
    · exact ⟨above, parent, name, pieces, named, place_eq⟩
  next => cases leads

end Disk
end CodeGloss
