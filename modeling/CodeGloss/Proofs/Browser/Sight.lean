import CodeGloss.Proofs.Browser.Moves
import CodeGloss.Proofs.Browser.Surroundings
import CodeGloss.Proofs.Outline.Lookup

/-!
# What is in sight

What a browser shows of its source is made from the text, the outline and the selection, and depends
on where the window begins (`Sight`).  Most of what can happen leaves all of that alone.  The rest
comes to four things (`Sight.Change`): the window is moved, a definition is selected and the window
follows, the text is read again, or it is loaded as a file.  Every step is some of these changes, one
after the other (`Browser.changes_take`), and nothing later looks into a step.

A view that is made anew may depend on the disk as well, for the file of a source may have to be read
to know what it is.  So a change says which disk there was.  It is that of the browser before the
step, unless the browser has saved its history since (`Disk.SavedFrom`).

To follow the selection, the window is moved as little as is needed to have a row in it
(`Sight.revealed`).
-/

namespace CodeGloss

/-- What the window shows of a source, and what that is made from. -/
structure Sight where
  /-- How the text is read. -/
  options : Block.Options
  /-- The language of the text. -/
  hint : Hint
  /-- The text. -/
  text : String
  /-- The definitions of the text. -/
  outline : Outline
  /-- The selected definition. -/
  selection : Selection
  /-- The path of the source. -/
  path : String
  /-- The theme of the colours. -/
  theme : String
  /-- The text as it is shown. -/
  view : View
  /-- How many rows of the view are above the window. -/
  scroll : Nat

namespace Sight

/-- The view that is to be shown, by the first lines of the files on a disk. -/
def built (firsts : Grammar.FirstLines) (s : Sight) : View :=
  View.build s.text s.outline s.selection s.hint (some s.path) s.theme firsts

/-- What is in sight when the view is built anew. -/
def refreshed (firsts : Grammar.FirstLines) (s : Sight) : Sight :=
  { s with view := s.built firsts }

/-- What is in sight when the text is replaced, and something is selected in it. -/
def replaced (firsts : Grammar.FirstLines) (text : String) (selection : Selection) (s : Sight) :
    Sight :=
  { s with text, outline := Outline.ofText s.options s.hint text, selection }.refreshed firsts

/-- What is in sight when the text is read again: the selection follows, and the window is kept on the
view. -/
def reloaded (firsts : Grammar.FirstLines) (text : String) (s : Sight) : Sight :=
  let s' := s.replaced firsts text
    (s.selection.follow (Outline.ofText s.options s.hint text)).1
  { s' with scroll := min s.scroll (s'.view.rows.length - 1) }

/-! ## The window -/

/-- Where a window of some rows begins that is moved as little as is needed to have a row in it. -/
def revealed (page scroll row : Nat) : Nat :=
  if row < scroll then row else if scroll + page ≤ row then row + 1 - page else scroll

/-- To have a row in it, a window is not moved further down than to that row. -/
theorem revealed_le {page scroll row last : Nat} (some_ : 1 ≤ page) (before : scroll ≤ last)
    (within : row ≤ last) : revealed page scroll row ≤ last := by
  unfold revealed
  split
  · exact within
  · split
    · omega
    · exact before

/-! ## Changes -/

/-- What can be done to what is in sight, one at a time, with a disk of some kind. -/
inductive Change (P : Disk → Prop) : Sight → Sight → Prop
  /-- The window is moved within the view. -/
  | scroll {s : Sight} {scroll : Nat} (within : scroll ≤ s.view.rows.length - 1) :
      Change P s { s with scroll }
  /-- A definition of the outline is selected, and the window follows. -/
  | select {s : Sight} {d : Definition} (mem : d ∈ s.outline.definitions) {page : Nat}
      (some_ : 1 ≤ page) {disk : Disk} (had : P disk) :
      Change P s
        { ({ s with selection := ⟨some d⟩ } : Sight).refreshed disk.firstLine? with
          scroll := revealed page s.scroll (d.firstLine - 1) }
  /-- The text is read again. -/
  | reload (s : Sight) (text : String) {disk : Disk} (had : P disk) :
      Change P s (s.reloaded disk.firstLine? text)
  /-- The text is loaded as a file, and nothing is selected then. -/
  | load (s : Sight) {disk : Disk} (had : P disk) :
      Change P s (s.replaced disk.firstLine? s.text .empty)

/-- Some changes, one after the other. -/
abbrev Changes (P : Disk → Prop) : Sight → Sight → Prop :=
  Relation.ReflTransGen (Change P)

variable {P Q : Disk → Prop}

/-- More disks allow more changes. -/
theorem Changes.mono (more : ∀ disk, P disk → Q disk) {s s' : Sight} (changes : Changes P s s') :
    Changes Q s s' := by
  induction changes with
  | refl => exact .refl
  | tail _ change ih =>
    refine ih.tail ?_
    cases change with
    | scroll within => exact .scroll within
    | select mem some_ had => exact .select mem some_ (more _ had)
    | reload text had => exact .reload _ text (more _ had)
    | load had => exact .load _ (more _ had)

/-- What every change keeps is kept by some of them. -/
theorem Changes.keeps {K : Sight → Prop} (kept : ∀ s s', Change P s s' → K s → K s')
    {s s' : Sight} (changes : Changes P s s') (h : K s) : K s' := by
  induction changes with
  | refl => exact h
  | tail _ change ih => exact kept _ _ change ih

end Sight

/-! ## Disks -/

/-- Whether a disk comes of another one when what is remembered of a workspace is saved there, once,
several times or not at all. -/
inductive Disk.SavedFrom (root : String) (disk : Disk) : Disk → Prop
  /-- Nothing is saved. -/
  | itself : SavedFrom root disk disk
  /-- Something is saved once more. -/
  | again {d d' : Disk} (before : SavedFrom root disk d) (history : History)
      (saved : History.save d root history = .ok d') : SavedFrom root disk d'

theorem Disk.SavedFrom.trans {root : String} {d d' d'' : Disk} (first : SavedFrom root d d')
    (second : SavedFrom root d' d'') : SavedFrom root d d'' := by
  induction second with
  | itself => exact first
  | again _ history saved ih => exact .again ih history saved

namespace Browser

/-- What is in sight of a browser. -/
def sight (b : Browser) : Sight where
  options := b.session.options
  hint := b.session.hint
  text := b.session.text
  outline := b.session.outline
  selection := b.session.selection
  path := b.path
  theme := b.theme
  view := b.view
  scroll := b.scroll

/-! ## What leaves it alone -/

section Frame

variable (b : Browser)

@[simp] theorem sight_say (level : Level) (text : String) : (b.say level text).sight = b.sight :=
  rfl

@[simp] theorem sight_saveHistory : b.saveHistory.sight = b.sight := by
  unfold saveHistory
  split <;> rfl

@[simp] theorem sight_rememberSplit : b.rememberSplit.sight = b.sight := by
  simp only [rememberSplit, sight_saveHistory]
  rfl

@[simp] theorem sight_reportObstacle (o : Session.Obstacle) :
    (b.reportObstacle o).sight = b.sight := by
  cases o <;> rfl

@[simp] theorem sight_askGloss : b.askGloss.sight = b.sight := by
  unfold askGloss
  split
  · exact b.sight_reportObstacle _
  · split <;> rfl

@[simp] theorem sight_askDetail : b.askDetail.sight = b.sight := by
  unfold askDetail
  split
  · exact b.sight_reportObstacle _
  · split <;> rfl

@[simp] theorem sight_workOn (n : Nat) (supply : Supply) :
    (b.workOn n supply).sight = b.sight := by
  unfold workOn
  split
  · rfl
  · unfold settle
    dsimp only
    split <;> rfl

theorem sight_refresh : b.refresh.sight = b.sight.refreshed b.disk.firstLine? := rfl

theorem sight_reveal (line : Nat) :
    (b.reveal line).sight =
      { b.sight with scroll := Sight.revealed b.pageRows b.scroll (line - 1) } := by
  simp only [reveal, Sight.revealed]
  split
  · rfl
  · split <;> rfl

/-- The window has at least one row. -/
theorem pos_pageRows : 1 ≤ b.pageRows :=
  Nat.le_max_right _ _

theorem sight_followSelection {d : Definition} (selected : b.session.selected? = some d) :
    b.followSelection.sight =
      { b.sight.refreshed b.disk.firstLine? with
        scroll := Sight.revealed b.pageRows b.scroll (d.firstLine - 1) } := by
  simp only [followSelection, selected, sight_refresh, sight_reveal]
  have disk : ∀ (b : Browser) (line : Nat), (b.reveal line).disk = b.disk := fun b line =>
    congrArg Surroundings.disk (b.surroundings_reveal line)
  rw [disk]
  rfl

end Frame

/-! ## What makes it anew -/

section Events

open Sight (Changes)

variable {P : Disk → Prop} (b : Browser)

/-- Nothing changes for the user, so that nothing has to be drawn anew. -/
theorem changes_of_sight_eq {b b' : Browser} (eq : b'.sight = b.sight) :
    Changes P b.sight b'.sight := by
  rw [eq]

theorem changes_scrollDown (rows : Nat) : Changes P b.sight (b.scrollDown rows).sight :=
  .single (.scroll (Nat.min_le_right _ _))

theorem changes_scrollUp (rows : Nat) : Changes P b.sight (b.scrollUp rows).sight :=
  .single (.scroll (Nat.min_le_right _ _))

section Disk

variable (had : P b.disk)
include had

/-- A definition of the outline may be selected, if the browser follows. -/
theorem changes_select {d : Definition} (mem : d ∈ b.session.outline.definitions) :
    Changes P b.sight (b.selecting d).followSelection.sight := by
  rw [sight_followSelection _ rfl]
  exact .single (.select mem b.pos_pageRows had)

theorem changes_step (forward : Bool) : Changes P b.sight (b.step forward).sight := by
  by_cases none_ : b.session.outline.size = 0
  · rw [step, if_pos none_]
  · obtain ⟨d, here, eq⟩ := b.exists_step_eq none_ forward
    rw [eq]
    exact b.changes_select had (Outline.mem_of_get? here)

theorem changes_click (line : Nat) : Changes P b.sight (b.click line).sight := by
  rcases b.click_cases line with ⟨d, found, eq⟩ | ⟨-, eq⟩
  · rw [eq, sight_askGloss]
    exact b.changes_select had (Outline.mem_of_startingOn? found)
  · rw [eq]

theorem changes_reload (message : String) : Changes P b.sight (b.reload message).sight := by
  unfold reload
  split
  next => exact .refl
  next text _ => exact .single (.reload b.sight text had)

theorem changes_handleKey (k : Key) : Changes P b.sight (b.handleKey k).sight := by
  unfold handleKey
  split
  -- Two keys that do the same are two cases.  The first two leave, and the last does nothing.
  case h_3 | h_4 => exact b.changes_step had true
  case h_5 | h_6 => exact b.changes_step had false
  case h_7 => exact changes_of_sight_eq b.sight_askGloss
  case h_8 => exact changes_of_sight_eq b.sight_askDetail
  case h_10 => exact b.changes_reload had _
  case h_11 | h_12 | h_13 => exact changes_of_sight_eq (sight_rememberSplit _)
  case h_14 => exact b.changes_scrollDown _
  case h_15 => exact b.changes_scrollUp _
  all_goals exact .refl

theorem changes_handleMouse (a : MouseAction) (row : Nat) :
    Changes P b.sight (b.handleMouse a row).sight := by
  cases a with
  | press =>
    simp only [handleMouse]
    split
    · exact .refl
    · split
      next line _ => exact b.changes_click had line
      next => exact .refl
  | drag =>
    simp only [handleMouse]
    split <;> exact .refl
  | release =>
    simp only [handleMouse]
    split
    · exact .refl
    · exact changes_of_sight_eq (sight_rememberSplit _)
  | wheelDown => exact b.changes_scrollDown _
  | wheelUp => exact b.changes_scrollUp _
  | other => exact .refl

theorem changes_handle (e : Event) : Changes P b.sight (b.handle e).sight := by
  cases e with
  | key k control =>
    cases control with
    | true =>
      simp only [handle]
      split <;> exact .refl
    | false => exact b.changes_handleKey had k
  | mouse a row => exact b.changes_handleMouse had a row
  | focusLost => exact .refl
  | other => exact .refl

/-! ## What goes on in the background -/

theorem changes_receive (delivery : Delivery) :
    Changes P b.sight (b.receive delivery).sight := by
  cases delivery with
  | gloss request outcome =>
    simp only [receive]
    split
    · exact .refl
    · cases outcome with
      | error failure => exact .refl
      | ok resolution => cases resolution <;> exact .refl
  | detail request outcome =>
    simp only [receive]
    split
    · exact .refl
    · cases outcome with
      | error failure => exact .refl
      | ok resolution => cases resolution <;> exact .refl
  | upload result =>
    cases result with
    | error failure => exact .refl
    | ok file =>
      simp only [receive, sight_say, sight_saveHistory, sight_refresh]
      exact .single (.load b.sight had)

theorem changes_receiveAt (n : Nat) : Changes P b.sight (b.receiveAt n).sight := by
  unfold receiveAt
  split
  next => exact .refl
  next delivery _ =>
    exact changes_receive { b with deliveries := b.deliveries.eraseIdx n } had delivery

end Disk

/-- To look at a delivery may save the history, and does nothing else to the disk. -/
theorem disk_receiveAt (n : Nat) :
    (b.receiveAt n).root = b.root ∧ Disk.SavedFrom b.root b.disk (b.receiveAt n).disk := by
  unfold receiveAt
  split
  next => exact ⟨rfl, .itself⟩
  next delivery _ =>
    let rest : Browser := { b with deliveries := b.deliveries.eraseIdx n }
    have effect := rest.surroundings_receive delivery
    have root := congrArg Surroundings.root effect
    have disk := congrArg Surroundings.disk effect
    change (rest.receive delivery).root = _ at root
    change (rest.receive delivery).disk = _ at disk
    show (rest.receive delivery).root = _ ∧ Disk.SavedFrom _ _ (rest.receive delivery).disk
    rw [root, disk]
    have saves : ∀ s : Surroundings,
        s.saved.root = s.root ∧ Disk.SavedFrom s.root s.disk s.saved.disk := by
      intro s
      rcases s.saved_cases with ⟨after, saved, eq⟩ | ⟨-, eq⟩
      · rw [eq]
        exact ⟨rfl, .again .itself _ saved⟩
      · rw [eq]
        exact ⟨rfl, .itself⟩
    unfold Surroundings.receive
    split
    · exact saves _
    · exact ⟨rfl, .itself⟩

theorem changes_receiveAll :
    Changes (Disk.SavedFrom b.root b.disk) b.sight b.receiveAll.sight := by
  rw [receiveAll_eq]
  generalize b.deliveries.length = count
  induction count generalizing b with
  | zero => exact .refl
  | succ count ih =>
    obtain ⟨root, saved⟩ := b.disk_receiveAt 0
    have later := ih (b.receiveAt 0)
    rw [root] at later
    exact (b.changes_receiveAt .itself 0).trans (later.mono fun _ again => saved.trans again)

theorem changes_tick : Changes (Disk.SavedFrom b.root b.disk) b.sight b.tick.sight := by
  unfold tick
  split
  next => exact b.changes_receiveAll
  next w _ =>
    dsimp only
    split
    · -- To read the source again leaves the disk as it is.
      let asked : Browser := { b with watch := some w.ask.2 }
      have same := asked.surroundings_reload "File changed on disk; spans refreshed"
      have root := congrArg Surroundings.root same
      have disk := congrArg Surroundings.disk same
      have later := changes_receiveAll (asked.reload "File changed on disk; spans refreshed")
      change (asked.reload _).root = b.root at root
      change (asked.reload _).disk = b.disk at disk
      rw [root, disk] at later
      exact (changes_reload asked .itself _).trans later
    · exact changes_receiveAll { b with watch := some w.ask.2 }

/-- **Every step is some changes of what is in sight.** -/
theorem changes_take (step : Step) :
    Changes (Disk.SavedFrom b.root b.disk) b.sight (b.take step).sight := by
  cases step with
  | event e => exact b.changes_handle .itself e
  | draw width height => exact .refl
  | edit disk => exact .refl
  | notice e => exact .refl
  | tick => exact b.changes_tick
  | work n supply => exact changes_of_sight_eq (b.sight_workOn n supply)
  | receive n => exact b.changes_receiveAt .itself n

/-- What every change keeps is kept by a run. -/
theorem sight_takeAll_of_change {K : Sight → Prop}
    (kept : ∀ P s s', Sight.Change P s s' → K s → K s')
    {b : Browser} (h : K b.sight) (steps : List Step) : K (b.takeAll steps).sight := by
  unfold takeAll
  induction steps generalizing b with
  | nil => exact h
  | cons step steps ih => exact ih ((b.changes_take step).keeps (kept _) h)

end Events

end Browser
end CodeGloss
