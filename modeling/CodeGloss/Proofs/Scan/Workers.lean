import Mathlib.Data.List.Forall2
import Mathlib.Logic.Relation

/-!
# Work that is shared

Some items are worked on by several workers at once.  Each of them takes an item that waits, and some
time later puts its result where the item was.  Nobody says who takes what and when.

Still, whatever is finished is what the work makes of the item at that position (`Scan.Keeps`,
`Scan.Step.keeps`, `Scan.Run.keeps`), so when all is finished the results are those of working through
the items in order (`Scan.Run.results_eq`).  And whatever has happened so far, all can be finished
(`Scan.Keeps.run_finished`).
-/

namespace CodeGloss
namespace Scan

variable {α β ε : Type}

/-- How far an item is. -/
inductive Slot (β : Type) where
  /-- Nobody has taken it. -/
  | waiting
  /-- Somebody works on it. -/
  | taken
  /-- There is a result. -/
  | finished (result : β)

/-- What one of the workers does next. -/
inductive Step (work : α → β) (items : List α) : List (Slot β) → List (Slot β) → Prop
  /-- An item is taken. -/
  | take {slots : List (Slot β)} {i : Nat} (waits : slots[i]? = some .waiting) :
      Step work items slots (slots.set i .taken)
  /-- An item is finished. -/
  | finish {slots : List (Slot β)} {i : Nat} {item : α} (taken : slots[i]? = some .taken)
      (here : items[i]? = some item) :
      Step work items slots (slots.set i (.finished (work item)))

/-- What the workers may have done at some time. -/
def Run (work : α → β) (items : List α) : List (Slot β) → Prop :=
  Relation.ReflTransGen (Step work items) (items.map fun _ => .waiting)

/-- Whether there is an item for every slot, of which a result is the one if there is any. -/
def Keeps (work : α → β) : List α → List (Slot β) → Prop :=
  List.Forall₂ fun item slot => ∀ result, slot = .finished result → result = work item

variable {work : α → β} {item : α} {items : List α} {slot : Slot β} {slots slots' : List (Slot β)}

/-! ## What is finished -/

/-- A slot may be set to what is true of its item. -/
theorem Keeps.set (keeps : Keeps work items slots) {i : Nat}
    (right : ∀ item, items[i]? = some item → ∀ result, slot = .finished result →
      result = work item) : Keeps work items (slots.set i slot) := by
  induction keeps generalizing i with
  | nil => exact .nil
  | @cons first _ items _ here rest ih =>
    cases i with
    | zero => exact .cons (right first rfl) rest
    | succ i => exact .cons here (ih fun item at_ => right item at_)

theorem Step.keeps (step : Step work items slots slots') (keeps : Keeps work items slots) :
    Keeps work items slots' := by
  cases step with
  | take waits => exact keeps.set fun _ _ _ => nofun
  | finish taken here =>
    refine keeps.set fun item at_ result eq => ?_
    cases here.symm.trans at_
    cases eq
    rfl

/-- **What is finished is what the work makes of the item**, in whatever order items are taken. -/
theorem Run.keeps (run : Run work items slots) : Keeps work items slots := by
  induction run with
  | refl => exact List.forall₂_map_right_iff.mpr (List.forall₂_same.mpr fun _ _ _ => nofun)
  | tail _ step ih => exact step.keeps ih

/-- When all is finished there is a result for each item, in the order of the items. -/
theorem Run.results_eq {results : List β} (run : Run work items (results.map .finished)) :
    results = items.map work := by
  have keeps := List.forall₂_map_right_iff.mp run.keeps
  have same : results.Forall₂ Eq (items.map work) :=
    List.forall₂_map_right_iff.mpr (keeps.flip.imp fun result _ right => right result rfl)
  rwa [List.forall₂_eq_eq_eq] at same

/-- A result is that of some item. -/
theorem Run.exists_of_mem {result : β} (run : Run work items slots)
    (mem : .finished result ∈ slots) : ∃ item ∈ items, result = work item := by
  obtain ⟨i, lt, eq⟩ := List.getElem_of_mem mem
  obtain ⟨length_eq, right⟩ := List.forall₂_iff_get.mp run.keeps
  have lt' : i < items.length := length_eq ▸ lt
  exact ⟨items[i], List.getElem_mem lt', right i lt' lt result eq⟩

/-! ## Getting finished -/

/-- What is done with some items can be done with more. -/
theorem Step.cons (step : Step work items slots slots') (item : α) (slot : Slot β) :
    Step work (item :: items) (slot :: slots) (slot :: slots') := by
  cases step with
  | @take i waits => exact .take (i := i + 1) waits
  | @finish i item taken here => exact .finish (i := i + 1) taken here

/-- **Everything gets finished**, whatever has been done before. -/
theorem Keeps.run_finished (keeps : Keeps work items slots) :
    Relation.ReflTransGen (Step work items) slots (items.map fun item => .finished (work item)) := by
  induction keeps with
  | nil => exact .refl
  | @cons item slot items slots here rest ih =>
    refine (ih.lift (slot :: ·) fun _ _ step => step.cons item slot).trans ?_
    have last : Step work (item :: items)
        (.taken :: items.map fun item => .finished (work item))
        (.finished (work item) :: items.map fun item => .finished (work item)) :=
      .finish (i := 0) rfl rfl
    cases slot with
    | waiting => exact .head (.take (i := 0) rfl) (.single last)
    | taken => exact .single last
    | finished result =>
      rw [here result rfl]
      exact .refl

theorem run_finished (work : α → β) (items : List α) :
    Run work items (items.map fun item => .finished (work item)) :=
  Keeps.run_finished (Run.keeps .refl)

/-! ## Working through -/

/-- Working through some items succeeds exactly if it does for each of them. -/
theorem mapM_eq_ok_iff {work : α → Except ε β} {results : List β} :
    items.mapM work = .ok results ↔ items.map work = results.map .ok := by
  induction items generalizing results with
  | nil => cases results <;> simp [pure, Except.pure]
  | cons item items ih =>
    rw [List.mapM_cons, List.map_cons]
    cases here : work item with
    | error e =>
      refine iff_of_false (fun done => by cases done) ?_
      cases results <;> simp
    | ok result =>
      cases rest : items.mapM work with
      | error e =>
        refine iff_of_false (fun done => by cases done) fun all => ?_
        cases results with
        | nil => cases all
        | cons first others =>
          rw [List.map_cons, List.cons.injEq] at all
          cases rest.symm.trans (ih.mpr all.2)
      | ok others =>
        rw [ih.mp rest, ← List.map_cons,
          List.map_inj_right fun _ _ same => Except.ok.inj same]
        exact ⟨fun done => Except.ok.inj done, fun same => congrArg Except.ok same⟩

/-- Where working through fails, it does so for one of the items. -/
theorem exists_of_mapM_eq_error {work : α → Except ε β} {e : ε}
    (fails : items.mapM work = .error e) : ∃ item ∈ items, work item = .error e := by
  induction items with
  | nil => cases fails
  | cons item items ih =>
    rw [List.mapM_cons] at fails
    cases here : work item with
    | error e' =>
      rw [here] at fails
      cases fails
      exact ⟨item, List.mem_cons_self, here⟩
    | ok result =>
      cases rest : items.mapM work with
      | error e' =>
        rw [here, rest] at fails
        cases fails
        obtain ⟨item', mem, fails⟩ := ih rest
        exact ⟨item', List.mem_cons_of_mem item mem, fails⟩
      | ok others =>
        rw [here, rest] at fails
        cases fails

end Scan
end CodeGloss
