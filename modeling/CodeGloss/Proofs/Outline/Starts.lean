import CodeGloss.Proofs.Outline.Lookup
import Mathlib.Data.List.Basic
import Mathlib.Data.List.Pairwise

/-!
# The lines on which definitions start

If the definitions of an outline start one below the other, the line on which a definition starts
tells which one it is.  So it does not matter how one is looked for
(`Outline.findIdx?_firstLine`, `Outline.startingOn?_eq_some_iff`), and looking on each line in turn
finds all of them in their order (`Outline.filterMap_findIdx?`).
-/

namespace CodeGloss

namespace Outline

variable {o : Outline} {d : Definition} {i number : Nat}

theorem eq_of_firstLine (below : o.definitions.Pairwise fun a b => a.firstLine < b.firstLine)
    {a b : Definition} {j : Nat} (here : o.get? i = some a) (there : o.get? j = some b)
    (eq : a.firstLine = b.firstLine) : i = j := by
  obtain ⟨lt, rfl⟩ := List.getElem?_eq_some_iff.mp here
  obtain ⟨lt', rfl⟩ := List.getElem?_eq_some_iff.mp there
  rw [List.pairwise_iff_getElem] at below
  rcases Nat.lt_trichotomy i j with less | same | greater
  · have := below i j lt lt' less
    omega
  · exact same
  · have := below j i lt' lt greater
    omega

/-- If definitions start on different lines, the one that starts on a line is easily found. -/
theorem findIdx?_firstLine (below : o.definitions.Pairwise fun a b => a.firstLine < b.firstLine) :
    o.definitions.findIdx? (·.firstLine == number) = some i ↔
      ∃ d, o.get? i = some d ∧ d.firstLine = number := by
  constructor
  · intro found
    obtain ⟨lt, starts, -⟩ := List.findIdx?_eq_some_iff_getElem.mp found
    exact ⟨_, List.getElem?_eq_getElem lt, beq_iff_eq.mp starts⟩
  · rintro ⟨d, here, starts⟩
    cases found : o.definitions.findIdx? (·.firstLine == number) with
    | none =>
      have other := List.findIdx?_eq_none_iff.mp found d (mem_of_get? here)
      simp [starts] at other
    | some j =>
      obtain ⟨lt, starts', -⟩ := List.findIdx?_eq_some_iff_getElem.mp found
      rw [eq_of_firstLine below here (List.getElem?_eq_getElem lt)
        (starts.trans (beq_iff_eq.mp starts').symm)]

theorem firstLine_of_startingOn? (found : o.startingOn? number = some d) :
    d.firstLine = number := by
  have starts := List.find?_some (p := fun d : Definition => d.firstLine == number) found
  exact beq_iff_eq.mp starts

theorem startingOn?_eq_some_iff
    (below : o.definitions.Pairwise fun a b => a.firstLine < b.firstLine) :
    o.startingOn? number = some d ↔ ∃ i, o.get? i = some d ∧ d.firstLine = number := by
  constructor
  · intro found
    obtain ⟨i, here⟩ := List.getElem?_of_mem (mem_of_startingOn? found)
    exact ⟨i, here, firstLine_of_startingOn? found⟩
  · rintro ⟨i, here, starts⟩
    cases found : o.startingOn? number with
    | none =>
      have other := List.find?_eq_none.mp found d (mem_of_get? here)
      simp [starts] at other
    | some d' =>
      obtain ⟨j, there⟩ := List.getElem?_of_mem (mem_of_startingOn? found)
      have same := eq_of_firstLine below here there
        (starts.trans (firstLine_of_startingOn? found).symm)
      rw [← same] at there
      rw [← here, ← there]
      rfl

/-- On the lines below the first one of a definition, it is not the one that is found. -/
theorem filterMap_findIdx?_cons {d : Definition} {n : Nat} (above : d.firstLine < n)
    (ds : List Definition) (len before : Nat) :
    (List.range' n len).filterMap
        (fun k => ((d :: ds).findIdx? (·.firstLine == k)).map fun i => (k, before + i)) =
      (List.range' n len).filterMap
        (fun k => (ds.findIdx? (·.firstLine == k)).map fun i => (k, before + 1 + i)) := by
  refine List.filterMap_congr fun k mem => ?_
  have differs : (d.firstLine == k) = false := by
    rw [beq_eq_false_iff_ne]
    have := (List.mem_range'_1.mp mem).1
    omega
  rw [List.findIdx?_cons, differs, if_neg Bool.false_ne_true, Option.map_map]
  refine congrArg (Option.map · _) (funext fun i => ?_)
  rw [Function.comp_apply, Nat.add_assoc, Nat.add_comm 1 i]

/-- Looking for a definition on each of some lines finds all that start there, in order. -/
theorem filterMap_findIdx? {ds : List Definition}
    (below : ds.Pairwise fun a b => a.firstLine < b.firstLine) (n len : Nat)
    (within : ∀ d ∈ ds, n ≤ d.firstLine ∧ d.firstLine < n + len) (before : Nat) :
    (List.range' n len).filterMap
        (fun k => (ds.findIdx? (·.firstLine == k)).map fun i => (k, before + i)) =
      (ds.zipIdx before).map fun p => (p.1.firstLine, p.2) := by
  induction len generalizing n ds before with
  | zero =>
    cases ds with
    | nil => rfl
    | cons d rest =>
      have bounds := within d List.mem_cons_self
      omega
  | succ len ih =>
    rw [List.range'_succ]
    cases ds with
    | nil => simp
    | cons d rest =>
      have ⟨lt, others⟩ := List.pairwise_cons.mp below
      obtain ⟨bounds, within_rest⟩ := List.forall_mem_cons.mp within
      rcases Nat.lt_or_eq_of_le bounds.1 with later | here
      · have later' : ∀ d' ∈ d :: rest, n < d'.firstLine :=
          List.forall_mem_cons.mpr ⟨later, fun d' mem => Nat.lt_trans later (lt d' mem)⟩
        have none_ : (d :: rest).findIdx? (·.firstLine == n) = none :=
          List.findIdx?_eq_none_iff.mpr fun d' mem => beq_false_of_ne (Nat.ne_of_gt (later' d' mem))
        rw [List.filterMap_cons_none (by rw [none_, Option.map_none])]
        refine ih below (n + 1) (fun d' mem => ⟨later' d' mem, ?_⟩) before
        have := (within d' mem).2
        omega
      · have first : (d :: rest).findIdx? (·.firstLine == n) = some 0 := by
          rw [List.findIdx?_cons, here, beq_self_eq_true, if_pos rfl]
        rw [List.filterMap_cons_some (by rw [first, Option.map_some]), List.zipIdx_cons,
          List.map_cons, here, filterMap_findIdx?_cons (Nat.lt_succ_self _),
          ih others (d.firstLine + 1) (fun d' mem => ⟨lt d' mem, ?_⟩) (before + 1)]
        · rfl
        · have := (within_rest d' mem).2
          omega

end Outline

end CodeGloss
