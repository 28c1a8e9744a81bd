import CodeGloss.Proofs.Outline.Lookup
import Mathlib.Data.List.Basic
import Mathlib.Data.List.Nodup
import Mathlib.Data.List.Pairwise

/-!
# Outlines of candidates

An outline is made up of candidates in two steps: those whose key has come before are left out, and
the others are put in the order of their first lines.  Here the outcome is described by the
candidates alone, without going through the steps.

A candidate is *foremost* if no other one with its key comes before it, that is, if it is the one
that is found by its key.  The first step leaves the foremost candidates, each once, and leaves them
in their order (`mem_distinct_iff`, `pairwise_distinct`).  The second step moves none of those that
start on one line past another one (`filter_inOrder`).  So the outline has each of the foremost
candidates, the upper ones first, and those of one line as they came (`outline_of_candidates`).  This
leaves no choice: there is only one such list.
-/

namespace CodeGloss
namespace Outline

/-- The first of some candidates with a key. -/
def foremost? (candidates : List Definition) (key : Definition.Key) : Option Definition :=
  candidates.find? (·.key == key)

/-- The position of the first candidate with a key, or the number of candidates. -/
def place (candidates : List Definition) (key : Definition.Key) : Nat :=
  candidates.findIdx (·.key == key)

section

variable {candidates rest : List Definition} {c d : Definition} {key : Definition.Key}

/-! ## The first candidate with a key -/

theorem foremost?_cons :
    foremost? (c :: rest) key = if c.key = key then some c else foremost? rest key := by
  by_cases same : c.key = key <;> simp [foremost?, same]

theorem place_cons :
    place (c :: rest) key = if c.key = key then 0 else place rest key + 1 := by
  rw [place, List.findIdx_cons]
  by_cases same : c.key = key
  · rw [same, beq_self_eq_true, cond_true, if_pos rfl]
  · rw [beq_false_of_ne same, cond_false, if_neg same]
    rfl

theorem key_of_foremost? (found : foremost? candidates key = some c) : c.key = key := by
  have same := List.find?_some (p := fun d : Definition => d.key == key) found
  exact beq_iff_eq.mp same

/-- There is a first candidate with a key if there is one at all. -/
theorem exists_foremost?_iff :
    (∃ c, foremost? candidates key = some c) ↔ key ∈ candidates.map Definition.key := by
  rw [← Option.isSome_iff_exists, foremost?, List.find?_isSome, List.mem_map]
  simp only [beq_iff_eq]

/-! ## Candidates without repetitions -/

/-- What is left of some candidates are those that are foremost, without those whose key was seen
before. -/
theorem mem_distinct_iff {seen : List Definition.Key} :
    d ∈ distinct seen candidates ↔ d.key ∉ seen ∧ foremost? candidates d.key = some d := by
  induction candidates generalizing seen with
  | nil => simp [distinct, foremost?]
  | cons c rest ih =>
    rw [distinct, foremost?_cons]
    by_cases known : c.key ∈ seen
    · -- A definition with the key of `c` is left out, and all others do not care for `c`.
      rw [if_pos (List.contains_iff_mem.mpr known), ih]
      by_cases same : c.key = d.key
      · simp [← same, known]
      · rw [if_neg same]
    · rw [if_neg (fun there => known (List.contains_iff_mem.mp there)), List.mem_cons, ih,
        List.mem_cons, not_or]
      by_cases same : c.key = d.key
      · rw [if_pos same, Option.some.injEq]
        constructor
        · rintro (rfl | ⟨⟨other, -⟩, -⟩)
          · exact ⟨known, rfl⟩
          · exact absurd same.symm other
        · rintro ⟨-, rfl⟩
          exact .inl rfl
      · rw [if_neg same]
        constructor
        · rintro (rfl | ⟨⟨-, unseen⟩, found⟩)
          · exact absurd rfl same
          · exact ⟨unseen, found⟩
        · rintro ⟨unseen, found⟩
          exact .inr ⟨⟨Ne.symm same, unseen⟩, found⟩

/-- The candidates that are left stay in their order. -/
theorem pairwise_distinct (seen : List Definition.Key) (candidates : List Definition) :
    (distinct seen candidates).Pairwise fun a b =>
      place candidates a.key < place candidates b.key := by
  induction candidates generalizing seen with
  | nil => exact .nil
  | cons c rest ih =>
    -- Behind `c` all places are one higher, for keys that are not that of `c`.
    have moved : ∀ {ds : List Definition}, (∀ d ∈ ds, c.key ≠ d.key) →
        ds.Pairwise (fun a b => place rest a.key < place rest b.key) →
        ds.Pairwise fun a b => place (c :: rest) a.key < place (c :: rest) b.key := by
      intro ds other below
      refine below.imp_of_mem fun {a b} mem mem' lt => ?_
      rw [place_cons, place_cons, if_neg (other a mem), if_neg (other b mem')]
      exact Nat.succ_lt_succ lt
    rw [distinct]
    split
    next known =>
      refine moved (fun d mem same => ?_) (ih seen)
      exact (mem_distinct_iff.mp mem).1 (same ▸ List.contains_iff_mem.mp known)
    next =>
      have other : ∀ d ∈ distinct (c.key :: seen) rest, c.key ≠ d.key := fun d mem same =>
        (mem_distinct_iff.mp mem).1 (same ▸ List.mem_cons_self)
      refine .cons (fun d mem => ?_) (moved other (ih _))
      rw [place_cons, place_cons, if_pos rfl, if_neg (other d mem)]
      exact Nat.succ_pos _

theorem nodup_key_distinct (seen : List Definition.Key) (candidates : List Definition) :
    ((distinct seen candidates).map Definition.key).Nodup := by
  rw [List.Nodup, List.pairwise_map]
  refine (pairwise_distinct seen candidates).imp fun {a b} lt same => ?_
  rw [same] at lt
  exact Nat.lt_irrefl _ lt

/-- Nothing is left out of candidates whose keys are all different. -/
theorem distinct_of_nodup {ds : List Definition} (nodup : (ds.map Definition.key).Nodup)
    {seen : List Definition.Key} (unseen : ∀ d ∈ ds, d.key ∉ seen) : distinct seen ds = ds := by
  induction ds generalizing seen with
  | nil => rfl
  | cons d rest ih =>
    rw [List.map_cons, List.nodup_cons] at nodup
    have new : seen.contains d.key = false := by
      simpa using unseen d List.mem_cons_self
    rw [distinct, new, if_neg (by simp), ih nodup.2]
    intro other mem
    rw [List.mem_cons, not_or]
    refine ⟨fun same => nodup.1 ?_, unseen other (List.mem_cons_of_mem _ mem)⟩
    rw [← same]
    exact List.mem_map_of_mem mem

/-! ## Candidates in order -/

/-- The upper definitions first, and those of one line as they are. -/
def inOrder (ds : List Definition) : List Definition :=
  ds.mergeSort fun a b => a.firstLine ≤ b.firstLine

theorem definitions_ofCandidates (candidates : List Definition) :
    (ofCandidates candidates).definitions = inOrder (distinct [] candidates) := rfl

theorem perm_inOrder (ds : List Definition) : (inOrder ds).Perm ds :=
  List.mergeSort_perm ds _

theorem pairwise_inOrder (ds : List Definition) :
    (inOrder ds).Pairwise fun a b => a.firstLine ≤ b.firstLine := by
  have sorted : (inOrder ds).Pairwise fun a b => decide (a.firstLine ≤ b.firstLine) = true :=
    List.pairwise_mergeSort (fun a b c => by simpa using Nat.le_trans)
      (fun a b => by simpa using Nat.le_total _ _) ds
  exact sorted.imp of_decide_eq_true

theorem inOrder_of_pairwise {ds : List Definition}
    (ordered : ds.Pairwise fun a b => a.firstLine ≤ b.firstLine) : inOrder ds = ds :=
  List.mergeSort_of_pairwise (ordered.imp decide_eq_true)

/-- Definitions that start on one line stay as they are. -/
theorem filter_inOrder (ds : List Definition) (line : Nat) :
    (inOrder ds).filter (·.firstLine == line) = ds.filter (·.firstLine == line) := by
  have tied : (ds.filter (·.firstLine == line)).Pairwise
      fun a b => decide (a.firstLine ≤ b.firstLine) = true := by
    refine List.pairwise_of_forall_mem_list fun a mem b mem' => decide_eq_true ?_
    rw [List.mem_filter, beq_iff_eq] at mem mem'
    exact Nat.le_of_eq (mem.2.trans mem'.2.symm)
  have within : List.Sublist (ds.filter (·.firstLine == line)) (inOrder ds) :=
    List.sublist_mergeSort (fun a b c => by simpa using Nat.le_trans)
      (fun a b => by simpa using Nat.le_total _ _) tied List.filter_sublist
  have kept := within.filter (·.firstLine == line)
  simp only [List.filter_filter, Bool.and_self] at kept
  exact (kept.eq_of_length ((perm_inOrder ds).filter _).length_eq.symm).symm

/-- So what is true of any two of them, in order, stays true where they start on one line. -/
theorem pairwise_inOrder_of_pairwise {ds : List Definition} {R : Definition → Definition → Prop}
    (related : ds.Pairwise R) :
    (inOrder ds).Pairwise fun a b =>
      a.firstLine < b.firstLine ∨ a.firstLine = b.firstLine ∧ R a b := by
  refine List.pairwise_of_forall_sublist fun {a b} both => ?_
  rcases Nat.lt_or_eq_of_le ((pairwise_inOrder ds).forall_sublist both) with lt | eq
  · exact .inl lt
  · right
    refine ⟨eq, related.forall_sublist ?_⟩
    have level := both.filter (·.firstLine == b.firstLine)
    rw [filter_inOrder, List.filter_cons_of_pos (by simp [eq]),
      List.filter_cons_of_pos (by simp), List.filter_nil] at level
    exact level.trans List.filter_sublist

/-- Candidates whose keys are all different and that are in order make up an outline as they are. -/
theorem ofCandidates_eq_self {ds : List Definition} (nodup : (ds.map Definition.key).Nodup)
    (ordered : ds.Pairwise fun a b => a.firstLine ≤ b.firstLine) : ofCandidates ds = ⟨ds⟩ :=
  congrArg Outline.mk <|
    (congrArg inOrder (distinct_of_nodup nodup (by simp))).trans (inOrder_of_pairwise ordered)

/-- Definitions that start one below the other have different keys. -/
theorem nodup_key_of_pairwise {ds : List Definition}
    (below : ds.Pairwise fun a b => a.firstLine < b.firstLine) :
    (ds.map Definition.key).Nodup := by
  rw [List.Nodup, List.pairwise_map]
  refine below.imp fun {a b} lt same => ?_
  have line := congrArg Definition.Key.firstLine same
  have : a.firstLine = b.firstLine := line
  omega

/-- So candidates that start one below the other make up an outline as they are. -/
theorem ofCandidates_of_pairwise {ds : List Definition}
    (below : ds.Pairwise fun a b => a.firstLine < b.firstLine) : ofCandidates ds = ⟨ds⟩ :=
  ofCandidates_eq_self (nodup_key_of_pairwise below) (below.imp Nat.le_of_lt)

/-! ## The outline -/

theorem mem_ofCandidates_iff :
    d ∈ (ofCandidates candidates).definitions ↔ foremost? candidates d.key = some d := by
  rw [definitions_ofCandidates, (perm_inOrder _).mem_iff, mem_distinct_iff]
  simp

theorem nodup_key_ofCandidates (candidates : List Definition) :
    ((ofCandidates candidates).definitions.map Definition.key).Nodup := by
  rw [definitions_ofCandidates, ((perm_inOrder _).map _).nodup_iff]
  exact nodup_key_distinct [] candidates

/-- If all keys are different, the key of a definition tells where it is. -/
theorem eq_of_key {o : Outline} (nodup : (o.definitions.map Definition.key).Nodup) {i j : Nat}
    (here : o.get? i = some c) (there : o.get? j = some d) (same : c.key = d.key) : i = j := by
  have keys : (o.definitions.map Definition.key)[i]? = (o.definitions.map Definition.key)[j]? := by
    rw [List.getElem?_map, List.getElem?_map]
    simp only [get?] at here there
    rw [here, there, Option.map_some, Option.map_some, same]
  refine (List.getElem?_inj ?_ nodup).mp keys
  rw [List.length_map]
  exact (List.getElem?_eq_some_iff.mp here).1

/-- So a definition is found where it is. -/
theorem position?_of_get? {o : Outline} (nodup : (o.definitions.map Definition.key).Nodup) {i : Nat}
    (here : o.get? i = some d) : o.position? d = some i := by
  cases found : o.position? d with
  | none => exact absurd rfl (position?_eq_none_iff.mp found d (mem_of_get? here))
  | some j =>
    obtain ⟨c, there, same⟩ := get?_of_position? found
    rw [eq_of_key nodup here there same.symm]

/-- A definition is found at a position if the first candidate with its key is there. -/
theorem position?_ofCandidates {i : Nat} :
    (ofCandidates candidates).position? d = some i ↔
      ∃ c, foremost? candidates d.key = some c ∧ (ofCandidates candidates).get? i = some c := by
  constructor
  · intro found
    obtain ⟨c, here, same⟩ := get?_of_position? found
    exact ⟨c, same ▸ mem_ofCandidates_iff.mp (mem_of_get? here), here⟩
  · rintro ⟨c, first, here⟩
    have same := key_of_foremost? first
    cases found : (ofCandidates candidates).position? d with
    | none => exact absurd same (position?_eq_none_iff.mp found c (mem_of_get? here))
    | some j =>
      obtain ⟨c', there, same'⟩ := get?_of_position? found
      rw [eq_of_key (nodup_key_ofCandidates candidates) here there (same.trans same'.symm)]

/-- **What the outline of some candidates is.**  Whatever the candidates are:

* No two definitions of their outline have one key, it has a definition for each of their keys and
  for no other one, and each definition is the first candidate with its key, text and all.
* The definitions are in the order of their first lines, and those of one line in the order of the
  candidates.
* Made into an outline once more they stay as they are.
* A definition has a position if some candidate has its key, and there the first such candidate is
  found. -/
theorem outline_of_candidates (candidates : List Definition) :
    let o := ofCandidates candidates
    (o.definitions.map Definition.key).Nodup ∧
      (∀ key, key ∈ o.definitions.map Definition.key ↔ key ∈ candidates.map Definition.key) ∧
      (∀ d ∈ o.definitions, foremost? candidates d.key = some d) ∧
      (o.definitions.Pairwise fun a b =>
        a.firstLine < b.firstLine ∨
          a.firstLine = b.firstLine ∧ place candidates a.key < place candidates b.key) ∧
      ofCandidates o.definitions = o ∧
      ∀ d : Definition,
        ((∃ i, o.position? d = some i) ↔ d.key ∈ candidates.map Definition.key) ∧
          ∀ i, o.position? d = some i ↔
            ∃ c, foremost? candidates d.key = some c ∧ o.get? i = some c := by
  intro o
  have nodup := nodup_key_ofCandidates candidates
  have keys : ∀ key, key ∈ o.definitions.map Definition.key ↔
      key ∈ candidates.map Definition.key := by
    intro key
    refine Iff.trans ?_ exists_foremost?_iff
    rw [List.mem_map]
    constructor
    · rintro ⟨d, mem, rfl⟩
      exact ⟨d, mem_ofCandidates_iff.mp mem⟩
    · rintro ⟨d, found⟩
      obtain rfl := key_of_foremost? found
      exact ⟨d, mem_ofCandidates_iff.mpr found, rfl⟩
  refine ⟨nodup, keys, fun d => mem_ofCandidates_iff.mp,
    pairwise_inOrder_of_pairwise (pairwise_distinct [] candidates),
    ofCandidates_eq_self nodup (pairwise_inOrder _), fun d => ⟨?_, fun i => position?_ofCandidates⟩⟩
  rw [← keys d.key, List.mem_map]
  constructor
  · rintro ⟨i, found⟩
    obtain ⟨c, here, same⟩ := get?_of_position? found
    exact ⟨c, mem_of_get? here, same⟩
  · rintro ⟨c, mem, same⟩
    rw [← Option.isSome_iff_exists, ← Option.ne_none_iff_isSome]
    exact fun nothing => position?_eq_none_iff.mp nothing c mem same

/-- The second `f` has the key of the first one, and `g` starts above both. -/
example :
    let f : Definition :=
      { kind := .function, name := "f", firstLine := 4, lastLine := 5, text := "f" }
    let g : Definition :=
      { kind := .classLike, name := "g", firstLine := 2, lastLine := 8, text := "g" }
    let h : Definition := { f with name := "h" }
    ofCandidates [f, h, { f with text := "again" }, g] = ⟨[g, f, h]⟩ := by
  cbv

end
end Outline
end CodeGloss
