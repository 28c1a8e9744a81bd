import CodeGloss.Files.Tree
import CodeGloss.Table

/-!
# Putting into a file tree

What was put at a place is found there.  A directory that is not at or below that place stays a
directory and loses none of its entries, so that whoever follows a path through it still can.
-/

namespace CodeGloss
namespace FileTree

variable {tree whole sub : FileTree} {place : List String}

theorem lookup_setEntry (name : String) (tree : FileTree) (es : List (String × FileTree))
    (other : String) :
    (setEntry name tree es).lookup other =
      if other = name then some tree else es.lookup other := by
  show Table.get? _ other = if other = name then some tree else Table.get? es other
  induction es with
  | nil => rw [setEntry, Table.get?_cons]
  | cons e es ih =>
    rw [setEntry]
    split
    next here =>
      rw [beq_iff_eq] at here
      rw [Table.get?_cons, Table.get?_cons, here]
      split <;> rfl
    next elsewhere =>
      rw [beq_iff_eq] at elsewhere
      rw [Table.get?_cons, Table.get?_cons, ih]
      by_cases same : other = e.1
      · rw [if_pos same, if_pos same, if_neg (same ▸ elsewhere)]
      · rw [if_neg same, if_neg same]

/-- Below a place one goes on from what is at the place. -/
theorem find?_append (tree : FileTree) (front back : List String) :
    tree.find? (front ++ back) = (tree.find? front).bind (·.find? back) := by
  induction front generalizing tree with
  | nil => rfl
  | cons name front ih =>
    cases tree with
    | file content => rfl
    | directory es =>
      rw [List.cons_append, find?, find?]
      cases es.lookup name with
      | none => rfl
      | some below => exact ih below

/-- What it takes to put something into a directory: one entry is set, to what is put itself or to a
tree that it was put into. -/
theorem put?_cons {es : List (String × FileTree)} {name : String} {rest : List String}
    (put : (directory es).put? (name :: rest) sub = some whole) :
    ∃ below', whole = directory (setEntry name below' es) ∧
      (rest = [] ∧ below' = sub ∨
        ∃ below, es.lookup name = some below ∧ below.put? rest sub = some below') := by
  cases rest with
  | nil =>
    cases put
    exact ⟨sub, rfl, .inl ⟨rfl, rfl⟩⟩
  | cons next rest =>
    rw [put?] at put
    · split at put
      next below found =>
        obtain ⟨below', put', rfl⟩ := Option.map_eq_some_iff.mp put
        exact ⟨below', rfl, .inr ⟨below, found, put'⟩⟩
      next => cases put
    · exact List.cons_ne_nil _ _

/-- What was put at a place is there. -/
theorem find?_put? (put : tree.put? place sub = some whole) : whole.find? place = some sub := by
  induction place generalizing tree whole with
  | nil => cases tree <;> cases put <;> rw [find?]
  | cons name rest ih =>
    cases tree with
    | file content => cases put
    | directory es =>
      obtain ⟨below', rfl, ⟨rfl, rfl⟩ | ⟨below, found, put'⟩⟩ := put?_cons put
      · rw [find?, lookup_setEntry, if_pos rfl]
        cases below' <;> rfl
      · rw [find?, lookup_setEntry, if_pos rfl]
        exact ih put'

/-- Anything can be put into a directory. -/
theorem exists_put?_append {above : List String} {es : List (String × FileTree)}
    (found : tree.find? above = some (directory es)) (name : String) (sub : FileTree) :
    ∃ whole, tree.put? (above ++ [name]) sub = some whole := by
  induction above generalizing tree with
  | nil =>
    rw [find?] at found
    cases found
    exact ⟨_, rfl⟩
  | cons first above ih =>
    cases tree with
    | file content => cases found
    | directory entries =>
      rw [find?] at found
      split at found
      next below entry =>
        obtain ⟨below', put⟩ := ih found
        obtain ⟨next, rest, eq⟩ : ∃ next rest, above ++ [name] = next :: rest :=
          List.exists_cons_of_ne_nil (by simp)
        rw [eq] at put
        refine ⟨directory (setEntry first below' entries), ?_⟩
        rw [List.cons_append, eq, put?, entry]
        · dsimp only
          rw [put, Option.map_some]
        · exact List.cons_ne_nil _ _
      next => cases found

/-- A directory that is not at or below the place stays a directory with at least its entries. -/
theorem find?_put?_directory (put : tree.put? place sub = some whole) {other : List String}
    (apart : ¬place <+: other) {es : List (String × FileTree)}
    (found : tree.find? other = some (directory es)) :
    ∃ es', whole.find? other = some (directory es') ∧
      ∀ name, (es.lookup name).isSome → (es'.lookup name).isSome := by
  induction place generalizing tree whole other with
  | nil => exact absurd List.nil_prefix apart
  | cons name rest ih =>
    cases tree with
    | file content => cases put
    | directory entries =>
      obtain ⟨below', rfl, how⟩ := put?_cons put
      cases other with
      | nil =>
        cases found
        refine ⟨_, rfl, fun other there => ?_⟩
        rw [lookup_setEntry]
        split
        · rfl
        · exact there
      | cons first others =>
        rw [find?] at found
        rw [find?, lookup_setEntry]
        by_cases same : first = name
        · subst same
          rw [if_pos rfl]
          rcases how with ⟨rfl, rfl⟩ | ⟨below, entry, put'⟩
          · exact absurd ⟨others, rfl⟩ apart
          · rw [entry] at found
            exact ih put' (fun within => apart ((List.cons_prefix_cons).mpr ⟨rfl, within⟩)) found
        · rw [if_neg same]
          exact ⟨es, found, fun _ there => there⟩

end FileTree
end CodeGloss
