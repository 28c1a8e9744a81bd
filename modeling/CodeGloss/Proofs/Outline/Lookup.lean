import CodeGloss.Selection

/-!
# Looking for definitions

What is found in an outline is in it, and a definition is found by its key if some definition has
that key.  So a selection that follows an outline is part of the outline afterwards, unless its key
is gone, and then it is given up (`Selection.follow_cases`).
-/

namespace CodeGloss

namespace Outline

variable {o : Outline} {d : Definition}

theorem mem_of_get? {position : Nat} (found : o.get? position = some d) : d ∈ o.definitions :=
  List.mem_of_getElem? found

theorem mem_of_startingOn? {line : Nat} (found : o.startingOn? line = some d) :
    d ∈ o.definitions :=
  List.mem_of_find?_eq_some found

theorem mem_of_named? {name : String} (found : o.named? name = some d) : d ∈ o.definitions :=
  List.mem_of_find?_eq_some found

theorem position?_eq_none_iff : o.position? d = none ↔ ∀ d' ∈ o.definitions, d'.key ≠ d.key := by
  simp [position?]

/-- At the position of a definition there is one with its key. -/
theorem get?_of_position? {position : Nat} (found : o.position? d = some position) :
    ∃ d', o.get? position = some d' ∧ d'.key = d.key := by
  obtain ⟨lt, same, -⟩ := List.findIdx?_eq_some_iff_getElem.mp found
  exact ⟨o.definitions[position], List.getElem?_eq_getElem lt, by simpa using same⟩

end Outline

namespace Selection

/-- Everything that following an outline can do. -/
theorem follow_cases (s : Selection) (o : Outline) :
    s.selected? = none ∧ s.follow o = (s, false) ∨
      ∃ d, s.selected? = some d ∧
        ((∃ d' ∈ o.definitions, d'.key = d.key ∧ s.follow o = (⟨some d'⟩, false)) ∨
          (∀ d' ∈ o.definitions, d'.key ≠ d.key) ∧ s.follow o = (empty, true)) := by
  cases selected : s.selected? with
  | none =>
    left
    refine ⟨rfl, ?_⟩
    simp only [follow, selected]
  | some d =>
    right
    refine ⟨d, rfl, ?_⟩
    cases position : o.position? d with
    | none =>
      right
      refine ⟨Outline.position?_eq_none_iff.mp position, ?_⟩
      simp only [follow, selected, position, Option.bind_none]
    | some i =>
      left
      obtain ⟨d', here, same⟩ := Outline.get?_of_position? position
      refine ⟨d', Outline.mem_of_get? here, same, ?_⟩
      simp only [follow, selected, position, Option.bind_some, here]

/-- A selection is given up if it has a definition whose key is gone. -/
theorem follow_snd_iff (s : Selection) (o : Outline) :
    (s.follow o).2 = true ↔
      ∃ d, s.selected? = some d ∧ ∀ d' ∈ o.definitions, d'.key ≠ d.key := by
  rcases s.follow_cases o with ⟨nothing, eq⟩ | ⟨d, selected, ⟨d', mem, same, eq⟩ | ⟨gone, eq⟩⟩
  · simp [eq, nothing]
  · rw [eq, selected]
    refine iff_of_false Bool.false_ne_true ?_
    rintro ⟨_, ⟨⟩, gone⟩
    exact gone d' mem same
  · rw [eq, selected]
    exact iff_of_true rfl ⟨d, rfl, gone⟩

end Selection
end CodeGloss
