import CodeGloss.Proofs.Browser.Sight
import CodeGloss.Proofs.View.Rows
import Mathlib.Data.List.Induction

/-!
# How the parts of a browser keep together

A browser shows its session in two places.  The panel has a copy of the selected definition, and the
view is made from the text, its outline and the selection.  Neither looks at the session by itself:
who changes the session has to see to both.  Here it is shown that everybody does.

That the panel shows what is selected is about the core of the browser only, and is read off from
its moves (`Core.ShowsSelected.move`).  The view and the window are what the core leaves out.  They
depend on what is in sight, and are read off from its changes: they leave the window on the view
(`Sight.Fits.change`), and either they make the view anew or nothing that it is made of is changed
(`Sight.Change.view`).

How a view is painted may depend on the first line of the source on the disk, which others may change
at any time.  So the view is the one that was made by the disk that the browser had then
(`Browser.MadeWith`), and the one that would be made now as long as that disk would not have the
source taken for anything else.
-/

namespace CodeGloss

/-! ## The panel -/

namespace Panel

@[simp] theorem definition_noted (place : Place) (note : Note) (p : Panel) :
    (p.noted place note).definition = p.definition := by
  cases place <;> rfl

/-- The panel that follows a session shows what is selected in it. -/
theorem definition_following (s : Session) : (following s).definition = s.selected? := by
  unfold following
  cases s.selected? with
  | none => rfl
  | some d =>
    dsimp only
    split <;> rfl

end Panel

namespace Core

/-- Whether the panel shows the definition that is selected, as far as its key goes, or none if
none is.  The copy in the panel need not have the text that the definition has by now. -/
def ShowsSelected (c : Core) : Prop :=
  c.panel.definition.map Definition.key = c.session.selected?.map Definition.key

theorem ShowsSelected.reload {c : Core} (h : c.ShowsSelected) (text : String) :
    ({ c with
        session := (c.session.setText text).1
        panel := if (c.session.setText text).2 then {} else c.panel } : Core).ShowsSelected := by
  unfold ShowsSelected at h ⊢
  rcases c.session.selection.follow_cases
      (Outline.ofText c.session.options c.session.hint text) with
    ⟨nothing, eq⟩ | ⟨d, selected, ⟨d', -, same, eq⟩ | ⟨-, eq⟩⟩
  · simpa [Session.setText, Session.renew, Session.selected?, eq, nothing] using h
  · simpa [Session.setText, Session.renew, Session.selected?, eq, selected, same] using h
  · simp [Session.setText, Session.renew, Session.selected?, eq, Selection.empty]

/-- Every move leaves the panel with what is selected. -/
theorem ShowsSelected.move {c c' : Core} (h : c.ShowsSelected) (move : Move c c') :
    c'.ShowsSelected := by
  cases move with
  | select selection => exact congrArg _ (Panel.definition_following _)
  | remember asks known => simpa [ShowsSelected] using h
  | ask q asks => simpa [ShowsSelected] using h
  | upload name text => exact h
  | reload text => exact h.reload text
  | passOver here stale => exact h
  | note here current gives => simpa [ShowsSelected] using h
  | load here => rfl

theorem ShowsSelected.moves {c c' : Core} (h : c.ShowsSelected) (moves : c.Moves c') :
    c'.ShowsSelected := by
  induction moves with
  | refl => exact h
  | tail _ move ih => exact ih.move move

end Core

/-! ## The view and the window -/

namespace Sight

/-- Whether what is in sight is a source with a theme, as far as it is not a matter of painting. -/
structure Fits (path theme : String) (s : Sight) : Prop where
  path : s.path = path
  theme : s.theme = theme
  outline : s.outline = Outline.ofText s.options s.hint s.text
  rows : s.view.rows.length = (View.shownLines s.text).length
  /-- The window begins on a row of the view, if there is one. -/
  scroll : s.scroll ≤ s.view.rows.length - 1

/-- The view that is to be shown has as many rows as the text has lines to show, so it does not
depend on the selection how many there are, nor on the disk. -/
theorem length_rows_built (firsts : Grammar.FirstLines) (s : Sight) :
    (s.built firsts).rows.length = (View.shownLines s.text).length :=
  View.length_rows_build _ _ _ _ _ _ _

/-- **Every change leaves what is in sight as it is to be.** -/
theorem Fits.change {P : Disk → Prop} {path theme : String} {s s' : Sight} (h : s.Fits path theme)
    (change : Change P s s') : s'.Fits path theme := by
  -- How far down the window may begin does not depend on the view.
  have before : s.scroll ≤ (View.shownLines s.text).length - 1 := h.rows ▸ h.scroll
  cases change with
  | scroll within => exact { h with scroll := within }
  | @select d mem page some_ disk had =>
    have row : d.firstLine ≤ (View.shownLines s.text).length :=
      (View.firstLine_of_mem_ofText (h.outline ▸ mem)).2
    have after : revealed page s.scroll (d.firstLine - 1) ≤
        (View.shownLines s.text).length - 1 :=
      revealed_le some_ before (Nat.sub_le_sub_right row 1)
    refine ⟨h.path, h.theme, h.outline, length_rows_built _ _, ?_⟩
    rw [← View.length_rows_build] at after
    exact after
  | @reload text disk had =>
    exact ⟨h.path, h.theme, rfl, length_rows_built _ _, Nat.min_le_right _ _⟩
  | @load disk had =>
    refine ⟨h.path, h.theme, rfl, length_rows_built _ _, ?_⟩
    rw [← View.length_rows_build] at before
    exact before

/-- Whether the view and what it is made of are left as they are. -/
def Leaves (s s' : Sight) : Prop :=
  s'.view = s.view ∧ ∀ firsts, s'.built firsts = s.built firsts

/-- Whether the view is made by a disk of some kind. -/
def IsMade (P : Disk → Prop) (s : Sight) : Prop :=
  ∃ disk, P disk ∧ s.view = s.built disk.firstLine?

theorem IsMade.leaves {P : Disk → Prop} {s s' : Sight} (made : s.IsMade P) (leaves : s.Leaves s') :
    s'.IsMade P := by
  obtain ⟨disk, had, view⟩ := made
  exact ⟨disk, had, leaves.1.trans (view.trans (leaves.2 _).symm)⟩

/-- A change makes the view, unless it only moves the window. -/
theorem Change.view {P : Disk → Prop} {s s' : Sight} (change : Change P s s') :
    s.Leaves s' ∨ s'.IsMade P := by
  cases change with
  | scroll within => exact .inl ⟨rfl, fun _ => rfl⟩
  | @select d mem page some_ disk had => exact .inr ⟨disk, had, rfl⟩
  | @reload text disk had => exact .inr ⟨disk, had, rfl⟩
  | @load disk had => exact .inr ⟨disk, had, rfl⟩

theorem Changes.view {P : Disk → Prop} {s s' : Sight} (changes : Changes P s s') :
    s.Leaves s' ∨ s'.IsMade P := by
  induction changes with
  | refl => exact .inl ⟨rfl, fun _ => rfl⟩
  | tail _ change ih =>
    rcases change.view with leaves | made
    · rcases ih with before | made
      · exact .inl ⟨leaves.1.trans before.1, fun firsts => (leaves.2 _).trans (before.2 _)⟩
      · exact .inr (made.leaves leaves)
    · exact .inr made

end Sight

namespace Browser

/-! ## At every moment -/

/-- Whether a browser had a disk when its view became what it is after some steps: it had the disk
after the first of them, or made it then by saving its history, and from the next step on its view has
been the one that it is in the end. -/
def MadeWith (b : Browser) (steps : List Step) (disk : Disk) : Prop :=
  ∃ i ≤ steps.length,
    Disk.SavedFrom (b.takeAll (steps.take i)).root (b.takeAll (steps.take i)).disk disk ∧
      ∀ j, i < j → (b.takeAll (steps.take j)).view = (b.takeAll steps).view

/-- What a view was made with does not change if a step leaves the view as it is. -/
theorem MadeWith.snoc {b : Browser} {steps : List Step} {disk : Disk} {step : Step}
    (made : b.MadeWith steps disk)
    (same : (b.takeAll (steps ++ [step])).view = (b.takeAll steps).view) :
    b.MadeWith (steps ++ [step]) disk := by
  obtain ⟨i, le, saved, stands⟩ := made
  refine ⟨i, by rw [List.length_append]; omega, ?_, fun j lt => ?_⟩
  · rwa [List.take_append_of_le_length le]
  · rcases Nat.lt_or_ge steps.length j with past | within
    · rw [List.take_of_length_le (by rw [List.length_append, List.length_singleton]; omega)]
    · rw [List.take_append_of_le_length within, same, stands j lt]

/-- With a step that makes the view it is made with the disk that there was before. -/
theorem madeWith_concat {b : Browser} {steps : List Step} {step : Step} {disk : Disk}
    (saved : Disk.SavedFrom (b.takeAll steps).root (b.takeAll steps).disk disk) :
    b.MadeWith (steps ++ [step]) disk := by
  refine ⟨steps.length, by rw [List.length_append]; omega, ?_, fun j lt => ?_⟩
  · rwa [List.take_left]
  · rw [List.take_of_length_le (by rw [List.length_append, List.length_singleton]; omega)]

/-- **Every step leaves a view that is made with the disk that the browser had then.** -/
theorem isMade_takeAll {b : Browser} (made : b.sight.IsMade (b.MadeWith [])) (steps : List Step) :
    (b.takeAll steps).sight.IsMade (b.MadeWith steps) := by
  induction steps using List.reverseRecOn with
  | nil => exact made
  | append_singleton steps step ih =>
    have whole : b.takeAll (steps ++ [step]) = (b.takeAll steps).take step := by
      rw [takeAll, List.foldl_append]
      rfl
    rcases ((b.takeAll steps).changes_take step).view with leaves | ⟨disk, saved, view⟩
    · rw [← whole] at leaves
      obtain ⟨disk, had, view⟩ := ih.leaves leaves
      exact ⟨disk, had.snoc leaves.1, view⟩
    · rw [← whole] at view
      exact ⟨disk, madeWith_concat saved, view⟩

/-- Every step leaves the panel with what is selected. -/
theorem showsSelected_take {b : Browser} (h : b.core.ShowsSelected) (step : Step) :
    (b.take step).core.ShowsSelected := by
  cases idle : step.isWork with
  | false => exact h.moves (moves_take b idle)
  | true =>
    cases step with
    | work n supply =>
      cases here : b.tasks[n]? with
      | none => simpa only [take, workOn, here] using h
      | some task =>
        simp only [take, core_workOn b supply here, Core.settle]
        split <;> exact h
    | _ => cases idle

theorem showsSelected_takeAll {b : Browser} (h : b.core.ShowsSelected) (steps : List Step) :
    (b.takeAll steps).core.ShowsSelected := by
  unfold takeAll
  induction steps generalizing b with
  | nil => exact h
  | cons step steps ih => exact ih (showsSelected_take h step)

/-- A browser is started with what is there, and with nothing selected. -/
theorem start_fits {disk : Disk} {request : Request} {b : Browser}
    (started : Browser.start disk request = .ok b) :
    b.core.ShowsSelected ∧ b.sight.Fits request.path request.settings.display.theme ∧
      b.sight.IsMade (b.MadeWith []) := by
  obtain ⟨history, text, -, -, ⟨fileId, rfl⟩ | rfl⟩ := start_cases started
  · exact ⟨rfl, ⟨rfl, rfl, rfl, View.length_rows_build _ _ _ _ _ _ _, Nat.zero_le _⟩,
      disk, ⟨0, Nat.le_refl _, .itself, fun j _ => by rw [List.take_nil]⟩, rfl⟩
  · exact ⟨rfl, ⟨rfl, rfl, rfl, View.length_rows_build _ _ _ _ _ _ _, Nat.zero_le _⟩,
      disk, ⟨0, Nat.le_refl _, .itself, fun j _ => by rw [List.take_nil]⟩, rfl⟩

/-- **The parts of a browser keep together.**  Whatever happens to a browser, the panel shows the
definition that is selected, as far as its key goes, and none if none is; the view is the one of the
text, the outline, the selection and the language that the session has then, painted for the path
and in the theme that the browser was started with; and the window begins on a row of the view, or
at its top if it has no rows.

A view is painted by a disk as well, which may have to tell what the source is.  It was the one that
the browser had when its view was made.  Unless the disk would have the source taken for something
else by now, the view is the one that would be made now. -/
theorem parts_keep_together {disk : Disk} {request : Request} {b : Browser}
    (started : Browser.start disk request = .ok b) (steps : List Step) :
    let b' := b.takeAll steps
    let made (disk : Disk) := View.build b'.session.text b'.session.outline b'.session.selection
      b'.session.hint (some request.path) request.settings.display.theme disk.firstLine?
    b'.panel.definition.map Definition.key = b'.session.selected?.map Definition.key ∧
      (∃ disk, b.MadeWith steps disk ∧ b'.view = made disk) ∧
      ((∀ disk, b.MadeWith steps disk → Grammar.ofPath? disk.firstLine? request.path =
          Grammar.ofPath? b'.disk.firstLine? request.path) → b'.view = made b'.disk) ∧
      b'.scroll ≤ b'.view.rows.length - 1 := by
  intro b' made
  obtain ⟨shows, fits, isMade⟩ := start_fits started
  have fits : b'.sight.Fits _ _ := sight_takeAll_of_change (fun _ _ _ change fits => fits.change change)
    fits steps
  obtain ⟨disk, had, view⟩ := isMade_takeAll isMade steps
  have built : b'.sight.built disk.firstLine? = made disk := by
    rw [Sight.built, fits.path, fits.theme]
    rfl
  have view : b'.view = made disk := view.trans built
  refine ⟨showsSelected_takeAll shows steps, ⟨disk, had, view⟩, fun same => ?_, fits.scroll⟩
  rw [view]
  exact View.build_congr (same disk had)

/-- Here a definition on the third line is selected in a window of two rows, and then the source is
read again when it has become the only line.  Its name tells what it is. -/
theorem parts_keep_together_after_reload :
    let disk (text : String) : Disk :=
      { tree := .directory [("f.rs", .file text.toUTF8)], here := [] }
    let request : Request :=
      { path := "f.rs", fileId := some "7", hint := some .rust, watches := false }
    let select : List Step := [.draw 20 9, .event (.key .down false)]
    let steps : List Step :=
      select ++ [.edit (disk "fn f() \x7b\x7d"), .event (.key (.char 'r') false)]
    ∃ b, Browser.start (disk "\n\nfn f() \x7b\x7d") request = .ok b ∧
      (b.takeAll select).panel.definition.map Definition.firstLine = some 3 ∧
      (b.takeAll select).scroll = 1 ∧ (b.takeAll steps).panel.definition = none ∧
      let b' := b.takeAll steps
      b'.panel.definition.map Definition.key = b'.session.selected?.map Definition.key ∧
        b'.view = View.build b'.session.text b'.session.outline b'.session.selection
          b'.session.hint (some request.path) request.settings.display.theme
          b'.disk.firstLine? ∧
        b'.scroll ≤ b'.view.rows.length - 1 := by
  intro disk request select steps
  have run : (Browser.start (disk "\n\nfn f() \x7b\x7d") request).toOption.map (fun b =>
      ((b.takeAll select).panel.definition.map Definition.firstLine, (b.takeAll select).scroll,
        (b.takeAll steps).panel.definition)) = some (some 3, 1, none) := by
    decide +kernel
  obtain ⟨b, started, eq⟩ := exists_start_of_map run
  obtain ⟨shown, rest⟩ := Prod.mk.inj eq
  obtain ⟨scroll, gone⟩ := Prod.mk.inj rest
  obtain ⟨shows, -, view, within⟩ := parts_keep_together started steps
  have named : (Grammar.ofName? request.path).isSome := by decide
  obtain ⟨grammar, named⟩ := Option.isSome_iff_exists.mp named
  refine ⟨b, started, shown, scroll, gone, shows, view fun d _ => ?_, within⟩
  simp only [Grammar.ofPath?, named]

end Browser
end CodeGloss
