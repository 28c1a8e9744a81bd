import CodeGloss.Proofs.Browser.Surroundings
import Mathlib.Data.List.Induction

/-!
# The grip on the divider

While the divider is held, a flag says so, and the mouse moves the divider.  The flag is set when a
grip is taken and cleared when one is let go.  A browser has at most one grip, and takes it when the
button is pressed on the divider.  The button may be released where the browser does not see it,
and be pressed on the divider again while there is a grip still.  Then the new grip is taken first
and the old one is let go after that, which clears the flag for the new one.

So the flag need not be set while there is a grip (`Browser.flag_cleared_by_second_press`).  There is
no other way to that.  The divider was pressed while it was held, and neither was the button released
nor the focus lost since then: that is exactly when the flag does not tell of the grip
(`Browser.flag_tells_of_grip_iff`).
-/

namespace CodeGloss

namespace Split

/-- Whether there is a grip, and the flag, are the same for two splits. -/
def HeldAlike (s s' : Split) : Prop :=
  s'.grips = s.grips ∧ s'.dragging = s.dragging

theorem heldAlike_dragTo (a : Area) (row : Nat) (s : Split) : s.HeldAlike (s.dragTo a row) := by
  unfold dragTo
  split <;> exact ⟨rfl, rfl⟩

theorem letGo_of_free {s : Split} (free : s.grips = 0) : s.letGo = s :=
  if_pos free

/-- To let the only grip go leaves none, and clears the flag. -/
theorem letGo_of_atMostOne {s : Split} (atMostOne : s.grips ≤ 1)
    (held : s.dragging = true → s.grips ≠ 0) : s.letGo.grips = 0 ∧ s.letGo.dragging = false := by
  by_cases free : s.grips = 0
  · rw [letGo_of_free free]
    exact ⟨free, Bool.eq_false_iff.mpr fun flag => held flag free⟩
  · rw [letGo, if_neg free]
    exact ⟨Nat.sub_eq_zero_of_le atMostOne, rfl⟩

end Split

namespace Surroundings

@[simp] theorem split_splitRemembered (s : Surroundings) :
    s.splitRemembered.split = s.split := by
  rw [splitRemembered, split_saved]

@[simp] theorem split_receive (s : Surroundings) (delivery : Delivery) :
    (s.receive delivery).split = s.split := by
  unfold receive
  split
  · exact split_saved _
  · rfl

theorem split_foldl_receive (ds : List Delivery) (s : Surroundings) :
    (ds.foldl receive s).split = s.split := by
  induction ds generalizing s with
  | nil => rfl
  | cons d rest ih => rw [List.foldl_cons, ih, split_receive]

theorem heldAlike_handleKey (s : Surroundings) (k : Key) :
    s.split.HeldAlike (s.handleKey k).split := by
  unfold handleKey
  split
  case h_4 => exact ⟨rfl, rfl⟩
  all_goals
    rw [split_splitRemembered]
    exact ⟨rfl, rfl⟩

end Surroundings

namespace Browser

/-! ## What a step does to the grip -/

/-- Whether a step presses the button on the divider. -/
def PressesDivider (b : Browser) (step : Step) : Prop :=
  ∃ row, step = .event (.mouse .press row) ∧ b.split.isDivider b.mainArea row = true

/-- Whether a step tells the browser that nothing is held any more: the button is released or the
focus is lost. -/
def Step.EndsDrag (step : Step) : Prop :=
  (∃ row, step = .event (.mouse .release row)) ∨ step = .event .focusLost

variable {b : Browser} {step : Step}

theorem not_pressesDivider_of_endsDrag (ends : step.EndsDrag) : ¬b.PressesDivider step := by
  rintro ⟨row, rfl, -⟩
  rcases ends with ⟨row', other⟩ | other <;> cases other

/-- The split after an event depends on the surroundings alone. -/
theorem split_handle (b : Browser) (e : Event) :
    (b.handle e).split = (b.surroundings.handle e).split :=
  congrArg Surroundings.split (b.surroundings_handle e)

/-- To press on the divider takes a grip. -/
theorem split_take_of_pressesDivider (presses : b.PressesDivider step) :
    (b.take step).split = b.surroundings.gripped.split := by
  obtain ⟨row, rfl, divider⟩ := presses
  rw [take, split_handle]
  exact congrArg Surroundings.split (if_pos divider)

/-- To end a drag lets the grip go, if there is one. -/
theorem split_take_of_endsDrag (ends : step.EndsDrag) :
    (b.take step).split = b.split.letGo := by
  rcases ends with ⟨row, rfl⟩ | rfl
  · rw [take, split_handle]
    simp only [Surroundings.handle, Surroundings.handleMouse]
    split
    next free => exact (Split.letGo_of_free free).symm
    next => exact Surroundings.split_splitRemembered _
  · rw [take, split_handle]
    rfl

theorem heldAlike_handle {e : Event} (elsewhere : ¬b.PressesDivider (.event e))
    (goesOn : ¬Step.EndsDrag (.event e)) : b.split.HeldAlike (b.handle e).split := by
  rw [split_handle]
  cases e with
  | key k control =>
    cases control with
    | true => exact ⟨rfl, rfl⟩
    | false => exact b.surroundings.heldAlike_handleKey k
  | mouse a row =>
    cases a with
    | press =>
      have beside : ¬b.split.isDivider b.mainArea row = true := fun divider =>
        elsewhere ⟨row, rfl, divider⟩
      rw [show b.surroundings.handle (.mouse .press row) = b.surroundings from if_neg beside]
      exact ⟨rfl, rfl⟩
    | drag =>
      simp only [Surroundings.handle, Surroundings.handleMouse]
      split
      · exact ⟨rfl, rfl⟩
      · exact Split.heldAlike_dragTo _ _ _
    | release => exact absurd (.inl ⟨row, rfl⟩) goesOn
    | _ => exact ⟨rfl, rfl⟩
  | focusLost => exact absurd (.inr rfl) goesOn
  | other => exact ⟨rfl, rfl⟩

/-- Every other step leaves the grip and the flag alone. -/
theorem heldAlike_take (elsewhere : ¬b.PressesDivider step) (goesOn : ¬step.EndsDrag) :
    b.split.HeldAlike (b.take step).split := by
  cases step with
  | event e => exact heldAlike_handle elsewhere goesOn
  | tick =>
    have eq : b.tick.split = _ := congrArg Surroundings.split b.surroundings_tick
    simp only [take, eq, Surroundings.split_foldl_receive]
    exact ⟨rfl, rfl⟩
  | receive n =>
    simp only [take, receiveAt]
    split
    · exact ⟨rfl, rfl⟩
    · next delivery _ =>
      have eq := congrArg Surroundings.split
        (surroundings_receive { b with deliveries := b.deliveries.eraseIdx n } delivery)
      rw [Surroundings.split_receive] at eq
      rw [show Browser.split _ = _ from eq]
      exact ⟨rfl, rfl⟩
  | work n supply =>
    have eq : (b.workOn n supply).split = b.split :=
      congrArg Surroundings.split (b.surroundings_workOn n supply)
    rw [take, eq]
    exact ⟨rfl, rfl⟩
  | _ => exact ⟨rfl, rfl⟩

/-! ## Runs -/

theorem takeAll_snoc (b : Browser) (steps : List Step) (step : Step) :
    b.takeAll (steps ++ [step]) = (b.takeAll steps).take step := by
  rw [takeAll, List.foldl_append]
  rfl

/-- Whether in a run the divider was pressed while it was held and no drag was ended since then. -/
def PressedTwice (b : Browser) (steps : List Step) : Prop :=
  ∃ front press back, steps = front ++ press :: back ∧
    (b.takeAll front).PressesDivider press ∧ (b.takeAll front).split.grips ≠ 0 ∧
    ∀ step ∈ back, ¬step.EndsDrag

theorem pressedTwice_snoc {b : Browser} {steps : List Step} {step : Step} :
    b.PressedTwice (steps ++ [step]) ↔
      (b.takeAll steps).PressesDivider step ∧ (b.takeAll steps).split.grips ≠ 0 ∨
        b.PressedTwice steps ∧ ¬step.EndsDrag := by
  constructor
  · rintro ⟨front, press, back, eq, presses, held, kept⟩
    rcases List.eq_nil_or_concat back with rfl | ⟨back, last, rfl⟩
    · obtain ⟨rfl, same⟩ := List.append_inj' eq rfl
      cases same
      exact .inl ⟨presses, held⟩
    · rw [List.concat_eq_append, ← List.cons_append, ← List.append_assoc] at eq
      obtain ⟨rfl, same⟩ := List.append_inj' eq rfl
      cases same
      simp only [List.concat_eq_append, List.mem_append, List.mem_singleton] at kept
      exact .inr ⟨⟨front, press, back, rfl, presses, held, fun s mem => kept s (.inl mem)⟩,
        kept _ (.inr rfl)⟩
  · rintro (⟨presses, held⟩ | ⟨⟨front, press, back, rfl, presses, held, kept⟩, last⟩)
    · exact ⟨steps, step, [], rfl, presses, held, by simp⟩
    · refine ⟨front, press, back ++ [step], by simp, presses, held, ?_⟩
      intro s mem
      rcases List.mem_append.mp mem with mem | mem
      · exact kept s mem
      · rw [List.mem_singleton.mp mem]
        exact last

/-- What holds of the grip and the flag after a run.  There is at most one grip; if it was taken
while there was one, the flag is not set, and else it is set if there is a grip. -/
structure GripSound (b : Browser) (steps : List Step) : Prop where
  atMostOne : (b.takeAll steps).split.grips ≤ 1
  twice : b.PressedTwice steps →
    (b.takeAll steps).split.grips = 1 ∧ (b.takeAll steps).split.dragging = false
  otherwise : ¬b.PressedTwice steps →
    ((b.takeAll steps).split.dragging = true ↔ (b.takeAll steps).split.grips ≠ 0)

/-- The flag is not set if there is no grip. -/
theorem GripSound.held {b : Browser} {steps : List Step} (h : b.GripSound steps)
    (flag : (b.takeAll steps).split.dragging = true) : (b.takeAll steps).split.grips ≠ 0 := by
  by_cases twice : b.PressedTwice steps
  · rw [(h.twice twice).2] at flag
    cases flag
  · exact (h.otherwise twice).mp flag

section Snoc

variable {b : Browser} {steps : List Step} {step : Step}

/-- When a grip is taken, whether there was one before decides what becomes of the flag. -/
theorem GripSound.snoc_of_pressesDivider (h : b.GripSound steps)
    (presses : (b.takeAll steps).PressesDivider step) : b.GripSound (steps ++ [step]) := by
  have eq : (b.takeAll (steps ++ [step])).split =
      if (b.takeAll steps).split.grips = 0 then (b.takeAll steps).split.take
      else (b.takeAll steps).split.take.letGo := by
    rw [takeAll_snoc]
    exact split_take_of_pressesDivider presses
  by_cases free : (b.takeAll steps).split.grips = 0
  · have once : ¬b.PressedTwice (steps ++ [step]) := by
      rw [pressedTwice_snoc]
      rintro (⟨-, held⟩ | ⟨before, -⟩)
      · exact held free
      · have := (h.twice before).1
        omega
    rw [if_pos free] at eq
    refine ⟨?_, fun again => absurd again once, fun _ => ?_⟩
    · rw [eq]
      exact Nat.succ_le_succ (Nat.le_of_eq free)
    · rw [eq]
      exact iff_of_true rfl (Nat.succ_ne_zero _)
  · have again : b.PressedTwice (steps ++ [step]) :=
      pressedTwice_snoc.mpr (.inl ⟨presses, free⟩)
    have one : (b.takeAll steps).split.grips = 1 := by
      have := h.atMostOne
      omega
    have left : (b.takeAll (steps ++ [step])).split.grips = 1 ∧
        (b.takeAll (steps ++ [step])).split.dragging = false := by
      rw [eq, if_neg free]
      simp [Split.take, Split.letGo, one]
    exact ⟨Nat.le_of_eq left.1, fun _ => left, fun once => absurd again once⟩

/-- When a drag is ended there is no grip any more, and the flag is not set. -/
theorem GripSound.snoc_of_endsDrag (h : b.GripSound steps) (ends : step.EndsDrag) :
    b.GripSound (steps ++ [step]) := by
  have once : ¬b.PressedTwice (steps ++ [step]) := by
    rw [pressedTwice_snoc]
    rintro (⟨presses, -⟩ | ⟨-, goesOn⟩)
    · exact not_pressesDivider_of_endsDrag ends presses
    · exact goesOn ends
  have eq : (b.takeAll (steps ++ [step])).split = (b.takeAll steps).split.letGo := by
    rw [takeAll_snoc]
    exact split_take_of_endsDrag ends
  obtain ⟨free, flag⟩ := Split.letGo_of_atMostOne h.atMostOne h.held
  refine ⟨?_, fun again => absurd again once, fun _ => ?_⟩
  · rw [eq, free]
    exact Nat.zero_le 1
  · rw [eq]
    exact iff_of_false (Bool.eq_false_iff.mp flag) (absurd free)

theorem GripSound.snoc (h : b.GripSound steps) (step : Step) : b.GripSound (steps ++ [step]) := by
  by_cases presses : (b.takeAll steps).PressesDivider step
  · exact h.snoc_of_pressesDivider presses
  by_cases ends : step.EndsDrag
  · exact h.snoc_of_endsDrag ends
  have same : b.PressedTwice (steps ++ [step]) ↔ b.PressedTwice steps := by
    simp [pressedTwice_snoc, presses, ends]
  obtain ⟨grips, dragging⟩ := heldAlike_take presses ends
  refine ⟨?_, fun again => ?_, fun once => ?_⟩
  · rw [takeAll_snoc, grips]
    exact h.atMostOne
  · rw [takeAll_snoc, grips, dragging]
    exact h.twice (same.mp again)
  · rw [takeAll_snoc, grips, dragging]
    exact h.otherwise (once ∘ same.mpr)

end Snoc

/-- The divider of a browser that is started is not held. -/
theorem split_start {disk : Disk} {request : Request} {b : Browser}
    (started : Browser.start disk request = .ok b) :
    b.split.grips = 0 ∧ b.split.dragging = false := by
  obtain ⟨history, -, eq⟩ := surroundings_start started
  have split_eq : b.split = _ := congrArg Surroundings.split eq
  rw [split_eq]
  exact ⟨rfl, rfl⟩

theorem gripSound {disk : Disk} {request : Request} {b : Browser}
    (started : Browser.start disk request = .ok b) (steps : List Step) : b.GripSound steps := by
  induction steps using List.reverseRecOn with
  | nil =>
    obtain ⟨free, flag⟩ := split_start started
    refine ⟨Nat.le_succ_of_le (Nat.le_of_eq free), ?_, fun _ => ?_⟩
    · rintro ⟨front, press, back, eq, -⟩
      cases front <;> cases eq
    · exact iff_of_false (Bool.eq_false_iff.mp flag) (absurd free)
  | append_singleton steps step ih => exact ih.snoc step

/-- **When the flag tells of the grip.**  Whatever happens to a browser, there is never more than one
grip, and without a grip the flag is not set.  The flag is set exactly if there is a grip, unless the
divider was pressed while it was held, and neither was the button released nor the focus lost since
then.  In that case there is a grip and the flag is not set. -/
theorem flag_tells_of_grip_iff {disk : Disk} {request : Request} {b : Browser}
    (started : Browser.start disk request = .ok b) (steps : List Step) :
    let split := (b.takeAll steps).split
    split.grips ≤ 1 ∧ (split.dragging = true → split.grips ≠ 0) ∧
      ((split.dragging = true ↔ split.grips ≠ 0) ↔
        ∀ front press back, steps = front ++ press :: back →
          (b.takeAll front).PressesDivider press → (b.takeAll front).split.grips ≠ 0 →
            ∃ step ∈ back, step.EndsDrag) := by
  have h := gripSound started steps
  refine ⟨h.atMostOne, h.held, ?_⟩
  constructor
  · intro tells front press back eq presses held
    by_contra none_
    obtain ⟨one, flag⟩ := h.twice ⟨front, press, back, eq, presses, held,
      fun step mem ends => none_ ⟨step, mem, ends⟩⟩
    rw [one, flag] at tells
    exact absurd (tells.mpr Nat.one_ne_zero) Bool.false_ne_true
  · intro ended
    refine h.otherwise ?_
    rintro ⟨front, press, back, eq, presses, held, kept⟩
    obtain ⟨step, mem, ends⟩ := ended front press back eq presses held
    exact kept step mem ends

/-- Here the divider is pressed a second time after the focus was lost, and the flag tells. -/
theorem flag_tells_after_lost_focus :
    let disk : Disk :=
      { tree := .directory [("f.rs", .file "fn f() \x7b\x7d".toUTF8)], here := [] }
    let request : Request := { path := "f.rs", watches := false }
    let press : Step := .event (.mouse .press 14)
    let steps : List Step := [.draw 80 23, press, .event .focusLost, press]
    ∃ b, Browser.start disk request = .ok b ∧
      let split := (b.takeAll steps).split
      split.grips = 1 ∧ split.dragging = true ∧
        split.grips ≤ 1 ∧ (split.dragging = true → split.grips ≠ 0) ∧
        ((split.dragging = true ↔ split.grips ≠ 0) ↔
          ∀ front press back, steps = front ++ press :: back →
            (b.takeAll front).PressesDivider press → (b.takeAll front).split.grips ≠ 0 →
              ∃ step ∈ back, step.EndsDrag) := by
  intro disk request press steps
  have run : (Browser.start disk request).toOption.map (fun b =>
      ((b.takeAll steps).split.grips, (b.takeAll steps).split.dragging)) = some (1, true) := by
    decide
  obtain ⟨b, started, eq⟩ := exists_start_of_map run
  obtain ⟨one, flag⟩ := Prod.mk.inj eq
  exact ⟨b, started, one, flag, flag_tells_of_grip_iff started steps⟩

/-- **The flag does not always tell of the grip.**  When the divider is pressed twice and the button
was released elsewhere in between, there is a grip and the flag is not set. -/
theorem flag_cleared_by_second_press :
    ∃ (disk : Disk) (request : Request) (b : Browser) (steps : List Step),
      Browser.start disk request = .ok b ∧ (b.takeAll steps).split.grips ≠ 0 ∧
        ¬(b.takeAll steps).split.dragging = true := by
  let disk : Disk :=
    { tree := .directory [("f.rs", .file "fn f() \x7b\x7d".toUTF8)], here := [] }
  let request : Request := { path := "f.rs", watches := false }
  let press : Step := .event (.mouse .press 14)
  let steps : List Step := [.draw 80 23, press, press]
  have run : (Browser.start disk request).toOption.map (fun b =>
      ((b.takeAll steps).split.grips, (b.takeAll steps).split.dragging)) = some (1, false) := by
    decide
  obtain ⟨b, started, eq⟩ := exists_start_of_map run
  obtain ⟨one, flag⟩ := Prod.mk.inj eq
  refine ⟨disk, request, b, steps, started, ?_, ?_⟩
  · rw [one]
    exact Nat.one_ne_zero
  · rw [flag]
    exact Bool.false_ne_true

end Browser
end CodeGloss
