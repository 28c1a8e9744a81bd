import CodeGloss.Proofs.Block.Positions
import CodeGloss.Proofs.Browser.Sight
import CodeGloss.Proofs.Outline.Candidates
import CodeGloss.Proofs.Outline.Starts
import CodeGloss.Proofs.View.Rows
import Mathlib.Data.Nat.Dist

/-!
# Stepping through the definitions

The keys go from the selected definition to the next one or to the one before, and from no selection
to the first or the last.  A click goes to the definition that starts on a line.  The window follows,
wherever it was left before and however high the pane was drawn last.

What a step or a click comes to is said by `Browser.GoesTo`: the definition at a position is selected
and is found at that position, and the window has the first row of it.  For the position to be found
again, the outline must be that of a text, since no two definitions of a text have one key; and for
no selection to mean that nothing is found, what is selected must be in the outline
(`Sight.Settled`).  Every change keeps both.

The window is moved as little as possible (`Sight.Brings`).  Where to, is found by subtracting, as is
the last position of the outline.  Here the step and the click are also written down with
subtractions that may fail, and with places in the outline that may not be there
(`Browser.step?`, `Browser.press?`).  They never fail, for any browser.
-/

namespace CodeGloss

open Block.Positional (minus? minus?_of_le)

namespace Sight

/-! ## The window -/

/-- That a window of some rows comes to have a row in it and is moved as little as that takes. -/
structure Brings (page row before after : Nat) : Prop where
  above : after ≤ row
  below : row < after + page
  /-- The window stays if it has the row already. -/
  stays : before ≤ row → row < before + page → after = before
  /-- No window with the row in it is nearer. -/
  least : ∀ other, other ≤ row → row < other + page → Nat.dist before after ≤ Nat.dist before other

/-- **To have a row in it, the window is moved as little as that takes.** -/
theorem brings_revealed {page : Nat} (some_ : 1 ≤ page) (row before : Nat) :
    Brings page row before (revealed page before row) := by
  unfold revealed
  by_cases up : row < before
  · -- The window goes up until the row is its first one.
    rw [if_pos up]
    refine ⟨Nat.le_refl _, by omega, fun le _ => absurd up (Nat.not_lt.mpr le), ?_⟩
    intro other above _
    rw [Nat.dist_eq_sub_of_le_right (Nat.le_of_lt up), Nat.dist_eq_sub_of_le_right (by omega)]
    omega
  · rw [if_neg up]
    by_cases down : before + page ≤ row
    · -- The window goes down until the row is its last one.
      rw [if_pos down]
      refine ⟨by omega, by omega, fun _ lt => absurd down (Nat.not_le.mpr lt), ?_⟩
      intro other _ below
      rw [Nat.dist_eq_sub_of_le (by omega), Nat.dist_eq_sub_of_le (by omega)]
      omega
    · rw [if_neg down]
      refine ⟨Nat.not_lt.mp up, Nat.not_le.mp down, fun _ _ => rfl, ?_⟩
      intro other _ _
      rw [Nat.dist_self]
      exact Nat.zero_le _

/-! ## The selection -/

/-- Whether the outline is that of the text, and what is selected is in it. -/
structure Settled (s : Sight) : Prop where
  outline : s.outline = Outline.ofText s.options s.hint s.text
  selected : ∀ d, s.selection.selected? = some d → d ∈ s.outline.definitions

/-- **Every change keeps what is selected in the outline.** -/
theorem Settled.change {P : Disk → Prop} {s s' : Sight} (h : s.Settled) (change : Change P s s') :
    s'.Settled := by
  cases change with
  | scroll within => exact ⟨h.outline, h.selected⟩
  | @select d mem page some_ disk had =>
    refine ⟨h.outline, fun d' selected => ?_⟩
    rw [← Option.some.inj selected]
    exact mem
  | reload text had =>
    refine ⟨rfl, fun d selected => ?_⟩
    -- What is selected then is what the outline of the text has for the key.
    change (s.selection.follow (Outline.ofText s.options s.hint text)).1.selected? = some d
      at selected
    rcases s.selection.follow_cases (Outline.ofText s.options s.hint text) with
      ⟨nothing, eq⟩ | ⟨_, -, ⟨d', mem, -, eq⟩ | ⟨-, eq⟩⟩
    · rw [eq, nothing] at selected
      cases selected
    · rw [eq] at selected
      rw [← Option.some.inj selected]
      exact mem
    · rw [eq] at selected
      cases selected
  | load had =>
    refine ⟨rfl, fun d selected => ?_⟩
    cases selected

section Settled

variable {s : Sight} (h : s.Settled)
include h

/-- The key of a definition tells where it is in the outline. -/
theorem Settled.nodup : (s.outline.definitions.map Definition.key).Nodup := by
  rw [h.outline]
  exact Detection.nodup_key_ofText _ _ _

/-- The selected definition has a position, so if nothing has one then nothing is selected. -/
theorem Settled.position_eq_none_iff :
    s.selection.selected?.bind s.outline.position? = none ↔ s.selection.selected? = none := by
  cases selected : s.selection.selected? with
  | none => exact iff_of_true rfl rfl
  | some d =>
    refine iff_of_false (fun nowhere => ?_) (Option.some_ne_none d)
    exact Outline.position?_eq_none_iff.mp nowhere d (h.selected d selected) rfl

end Settled

end Sight

namespace Outline

/-- A position that is found is one of the outline. -/
theorem lt_of_position? {o : Outline} {d : Definition} {i : Nat} (found : o.position? d = some i) :
    i < o.size :=
  (List.findIdx?_eq_some_iff_getElem.mp found).1

end Outline

namespace Browser

/-! ## Where a step leads -/

/-- That a browser goes to the definition at a position. -/
structure GoesTo (i : Nat) (d : Definition) (b b' : Browser) : Prop where
  /-- The definition is at the position, of the same outline as before. -/
  here : b.session.outline.get? i = some d
  outline : b'.session.outline = b.session.outline
  /-- It is selected, and found at the position. -/
  selected : b'.session.selected? = some d
  position : b'.session.selectedPosition? = some i
  /-- It starts on a row of the view. -/
  first : 1 ≤ d.firstLine
  shown : d.firstLine ≤ b'.view.rows.length
  /-- The window is as high as before, and has the row. -/
  page : b'.pageRows = b.pageRows
  window : Sight.Brings b.pageRows (d.firstLine - 1) b.scroll b'.scroll

section Frame

variable (b : Browser)

@[simp] theorem codeArea_reveal (line : Nat) : (b.reveal line).codeArea = b.codeArea := by
  simp only [reveal]
  split
  · rfl
  · split <;> rfl

@[simp] theorem codeArea_followSelection : b.followSelection.codeArea = b.codeArea := by
  unfold followSelection
  split
  · rfl
  · exact codeArea_reveal _ _

@[simp] theorem codeArea_askGloss : b.askGloss.codeArea = b.codeArea := by
  unfold askGloss
  split
  next o _ => cases o <;> rfl
  next => split <;> rfl

end Frame

section Going

variable {b : Browser} (settled : b.sight.Settled)
include settled

/-- Who selects the definition at a position and follows goes there. -/
theorem goesTo_of_sight_eq {b' : Browser} {i : Nat} {d : Definition}
    (here : b.session.outline.get? i = some d)
    (sight : b'.sight = (b.selecting d).followSelection.sight)
    (area : b'.codeArea = b.codeArea) : b.GoesTo i d b' := by
  rw [sight_followSelection _ rfl] at sight
  have outline : b'.session.outline = b.session.outline := congrArg Sight.outline sight
  have selection : b'.session.selection = ⟨some d⟩ := congrArg Sight.selection sight
  have selected : b'.session.selected? = some d := congrArg Selection.selected? selection
  have view := congrArg Sight.view sight
  have scroll := congrArg Sight.scroll sight
  have mem : d ∈ (Outline.ofText b.session.options b.session.hint b.session.text).definitions :=
    settled.outline ▸ Outline.mem_of_get? here
  have row := View.firstLine_of_mem_ofText mem
  constructor
  case here => exact here
  case outline => exact outline
  case selected => exact selected
  case position =>
    rw [Session.selectedPosition?, selected, outline]
    exact Outline.position?_of_get? settled.nodup here
  case first => exact row.1
  case shown =>
    show d.firstLine ≤ b'.sight.view.rows.length
    rw [view]
    exact row.2.trans (Nat.le_of_eq (View.length_rows_build _ _ _ _ _ _ _).symm)
  case page => rw [pageRows, area, pageRows]
  case window =>
    show Sight.Brings b.pageRows (d.firstLine - 1) b.scroll b'.sight.scroll
    rw [scroll]
    exact Sight.brings_revealed b.pos_pageRows _ _

/-- A step goes where it is to lead. -/
theorem goesTo_step (some_ : b.session.outline.size ≠ 0) (forward : Bool) :
    ∃ d, b.GoesTo (stepTarget forward b.session.outline.size b.session.selectedPosition?) d
      (b.step forward) := by
  obtain ⟨d, here, eq⟩ := b.exists_step_eq some_ forward
  refine ⟨d, goesTo_of_sight_eq settled here (congrArg Browser.sight eq) ?_⟩
  rw [eq, codeArea_followSelection]
  rfl

/-- A click on the line on which a definition starts goes to that definition. -/
theorem goesTo_click {line : Nat} {d : Definition}
    (found : b.session.outline.startingOn? line = some d) :
    ∃ i, b.GoesTo i d (b.click line) := by
  obtain ⟨i, here⟩ := List.mem_iff_getElem?.mp (Outline.mem_of_startingOn? found)
  rcases b.click_cases line with ⟨d', found', eq⟩ | ⟨none_, -⟩
  · obtain rfl := Option.some.inj (found.symm.trans found')
    refine ⟨i, goesTo_of_sight_eq settled here ?_ ?_⟩
    · rw [eq, sight_askGloss]
    · rw [eq, codeArea_askGloss, codeArea_followSelection]
      rfl
  · rw [none_] at found
    cases found

end Going

/-- A step forward leads to the next position, but not beyond the last. -/
theorem stepTarget_forward (count : Nat) (position : Option Nat) :
    stepTarget true count position = position.elim 0 fun i => min (i + 1) (count - 1) := by
  cases position with
  | none => rfl
  | some i => rfl

/-- A step back leads to the position before, but not beyond the first. -/
theorem stepTarget_back {count : Nat} {position : Option Nat}
    (within : ∀ i, position = some i → i < count) :
    stepTarget false count position = position.elim (count - 1) fun i => i - 1 := by
  cases position with
  | none => rfl
  | some i =>
    have lt := within i rfl
    show min (i - 1) (count - 1) = i - 1
    omega

/-! ## What may fail -/

/-- The position that a step leads to, if the outline has a last one. -/
def stepTarget? (forward : Bool) (count : Nat) : Option Nat → Option Nat
  | some position =>
    (minus? count 1).map fun last => min (if forward then position + 1 else position - 1) last
  | none => if forward then some 0 else minus? count 1

/-- Moves the window to have a line in it, if there are enough lines above it to go down. -/
def reveal? (line : Nat) (b : Browser) : Option Browser :=
  let above := line - 1
  if above < b.scroll then some { b with scroll := above }
  else if b.scroll + b.pageRows ≤ above then
    (minus? (above + 1) b.pageRows).map fun scroll => { b with scroll }
  else some b

/-- Has the panel, the window and the view follow, if the window can. -/
def followSelection? (b : Browser) : Option Browser :=
  let b' := { b with panel := .following b.session }
  match b.session.selected? with
  | none => some b'.refresh
  | some d => (b'.reveal? d.firstLine).map refresh

/-- Selects the next definition or the one before, if it is there. -/
def step? (forward : Bool) (b : Browser) : Option Browser :=
  let count := b.session.outline.size
  if count = 0 then some b
  else do
    let target ← stepTarget? forward count b.session.selectedPosition?
    let d ← b.session.outline.get? target
    (b.selecting d).followSelection?

/-- The number of the line that is shown on a row of the screen, if the row is not above the pane. -/
def pointedLine? (row : Nat) (b : Browser) : Option (Option Nat) :=
  let top := min (b.codeArea.y + 1) Area.limit
  if row < top || b.codeArea.bottom - 1 ≤ row then some none
  else (minus? row top).map fun i => (b.view.rows[(b.scroll + i) % wordSize]?).map Row.number

/-- Selects the definition that starts on a line and asks for its annotation, if the window can
follow. -/
def click? (line : Nat) (b : Browser) : Option Browser :=
  match b.session.outline.startingOn? line with
  | none => some b
  | some d => (b.selecting d).followSelection?.map askGloss

/-- The button is pressed on a row of the screen, if nothing fails. -/
def press? (row : Nat) (b : Browser) : Option Browser :=
  if b.split.isDivider b.mainArea row then some b.grip
  else do
    match ← b.pointedLine? row with
    | none => some b
    | some line => b.click? line

section Checked

variable (b : Browser)

theorem stepTarget?_eq {count : Nat} (some_ : count ≠ 0) (forward : Bool) (position : Option Nat) :
    stepTarget? forward count position = some (stepTarget forward count position) := by
  have last := minus?_of_le (Nat.one_le_iff_ne_zero.mpr some_)
  cases position with
  | some position =>
    rw [stepTarget?, last, Option.map_some]
    cases forward <;> rfl
  | none =>
    cases forward with
    | true => rfl
    | false => exact last

theorem reveal?_eq (line : Nat) : b.reveal? line = some (b.reveal line) := by
  simp only [reveal?, reveal]
  split
  · rfl
  · split
    next down =>
      -- The row is below a window that is as high, so it is at least that far down.
      have enough : b.pageRows ≤ line - 1 + 1 := by omega
      rw [minus?_of_le enough, Option.map_some]
    next => rfl

theorem followSelection?_eq : b.followSelection? = some b.followSelection := by
  cases selected : b.session.selected? with
  | none => simp only [followSelection?, followSelection, Panel.following, selected]
  | some d =>
    cases known : b.session.broker.get? d with
    | none =>
      simp only [followSelection?, followSelection, Panel.following, selected, known, reveal?_eq,
        Option.map_some]
    | some text =>
      simp only [followSelection?, followSelection, Panel.following, selected, known, reveal?_eq,
        Option.map_some]

/-- **Nothing fails in a step.** -/
theorem step?_eq (forward : Bool) : b.step? forward = some (b.step forward) := by
  by_cases none_ : b.session.outline.size = 0
  · rw [step, if_pos none_, step?, if_pos none_]
  · obtain ⟨d, here, eq⟩ := b.exists_step_eq none_ forward
    rw [step?, if_neg none_, stepTarget?_eq none_, eq]
    simp only [bind, Option.bind, here]
    exact followSelection?_eq _

theorem pointedLine?_eq (row : Nat) :
    b.pointedLine? row = some (CodePane.lineAt? b.view b.codeArea b.scroll row) := by
  simp only [pointedLine?, CodePane.lineAt?]
  split
  next => rfl
  next within =>
    have below : min (b.codeArea.y + 1) Area.limit ≤ row := by
      rw [Bool.or_eq_true, not_or, decide_eq_true_eq, Nat.not_lt] at within
      exact within.1
    rw [minus?_of_le below, Option.map_some]

theorem click?_eq (line : Nat) : b.click? line = some (b.click line) := by
  rcases b.click_cases line with ⟨d, found, eq⟩ | ⟨none_, eq⟩
  · rw [eq, click?, found]
    dsimp only
    rw [followSelection?_eq, Option.map_some]
  · rw [eq, click?, none_]

/-- **Nothing fails when the button is pressed.** -/
theorem press?_eq (row : Nat) : b.press? row = some (b.handleMouse .press row) := by
  simp only [press?, handleMouse, pointedLine?_eq, bind, Option.bind_some]
  split
  · rfl
  · cases CodePane.lineAt? b.view b.codeArea b.scroll row with
    | none => rfl
    | some line => exact b.click?_eq line

end Checked

/-! ## At every moment -/

/-- A browser is started with the outline of its text, and with nothing selected. -/
theorem start_settled {disk : Disk} {request : Request} {b : Browser}
    (started : Browser.start disk request = .ok b) : b.sight.Settled := by
  obtain ⟨history, text, -, -, ⟨fileId, rfl⟩ | rfl⟩ := start_cases started
  · exact ⟨rfl, fun _ selected => by cases selected⟩
  · exact ⟨rfl, fun _ selected => by cases selected⟩

theorem settled_takeAll {disk : Disk} {request : Request} {b : Browser}
    (started : Browser.start disk request = .ok b) (steps : List Step) :
    (b.takeAll steps).sight.Settled :=
  sight_takeAll_of_change (fun _ _ _ change settled => settled.change change)
    (start_settled started) steps

/-- **Steps and clicks.**  Whatever has happened to a browser, its selected definition has a
position in the outline.  If there are any definitions, then the keys that step forward go from a
position to the next one, but not beyond the last, and from no selection to the first; the keys that
step back go to the one before, but not beyond the first, and from no selection to the last.
Pressing the button on a row that shows the line on which a definition starts goes to that
definition.  The window comes to have the row on which the definition starts, moved as little as
that takes and not at all if it has the row already, however high it is; and on the way no
subtraction fails, and no definition is looked for where there is none. -/
theorem steps_and_clicks_reveal {disk : Disk} {request : Request} {b : Browser}
    (started : Browser.start disk request = .ok b) (steps : List Step) :
    let b' := b.takeAll steps
    let count := b'.session.outline.size
    let position? := b'.session.selectedPosition?
    (position? = none ↔ b'.session.selected? = none) ∧
      (∀ i, position? = some i → i < count) ∧
      (count ≠ 0 →
        (∀ k, k = .char 'j' ∨ k = .down →
          ∃ d, b'.GoesTo (position?.elim 0 fun i => min (i + 1) (count - 1)) d
            (b'.handle (.key k false))) ∧
        ∀ k, k = .char 'k' ∨ k = .up →
          ∃ d, b'.GoesTo (position?.elim (count - 1) fun i => i - 1) d
            (b'.handle (.key k false))) ∧
      (∀ row line d, b'.split.isDivider b'.mainArea row = false →
        CodePane.lineAt? b'.view b'.codeArea b'.scroll row = some line →
        b'.session.outline.startingOn? line = some d →
        ∃ i, b'.GoesTo i d (b'.handle (.mouse .press row))) ∧
      (∀ forward, b'.step? forward = some (b'.step forward)) ∧
      ∀ row, b'.press? row = some (b'.handle (.mouse .press row)) := by
  intro b' count position?
  have settled : b'.sight.Settled := settled_takeAll started steps
  have within : ∀ i, position? = some i → i < count := by
    intro i found
    obtain ⟨d, -, here⟩ := Option.bind_eq_some_iff.mp found
    exact Outline.lt_of_position? here
  refine ⟨settled.position_eq_none_iff, within, fun some_ => ⟨?_, ?_⟩, ?_, b'.step?_eq, b'.press?_eq⟩
  · intro k forward
    obtain ⟨d, goes⟩ := goesTo_step settled some_ true
    have keys : b'.handle (.key k false) = b'.step true := by
      rcases forward with rfl | rfl <;> rfl
    rw [stepTarget_forward] at goes
    rw [keys]
    exact ⟨d, goes⟩
  · intro k back
    obtain ⟨d, goes⟩ := goesTo_step settled some_ false
    have keys : b'.handle (.key k false) = b'.step false := by
      rcases back with rfl | rfl <;> rfl
    rw [stepTarget_back within] at goes
    rw [keys]
    exact ⟨d, goes⟩
  · intro row line d beside pointed found
    have clicks : b'.handle (.mouse .press row) = b'.click line := by
      show b'.handleMouse .press row = b'.click line
      rw [handleMouse, beside, if_neg Bool.false_ne_true, pointed]
    rw [clicks]
    exact goesTo_click settled found

/-- Here the last of three definitions is selected in a window of two rows, and then the wheel is
turned back so that the window ends with the one before.  A step forward brings the window back, and
a click on the lower row of the window leaves it. -/
theorem steps_and_clicks_reveal_after_scrolling :
    let text := "fn a() {}


fn b() {}


fn c() {}"
    let disk : Disk := { tree := .directory [("f.rs", .file text.toUTF8)], here := [] }
    let request : Request :=
      { path := "f.rs", fileId := some "7", hint := some .rust, watches := false }
    let down : Step := .event (.key .down false)
    let steps : List Step := [.draw 20 9, down, down, down, .event (.mouse .wheelUp 1)]
    ∃ b, Browser.start disk request = .ok b ∧
      let b' := b.takeAll steps
      b'.session.selectedPosition? = some 2 ∧ b'.pageRows = 2 ∧ b'.scroll = 2 ∧
      (∃ d, b'.GoesTo 2 d (b'.handle (.key .down false))) ∧
      (∃ d, b'.GoesTo 1 d (b'.handle (.key .up false))) ∧
      ∃ i d, d.firstLine = 4 ∧ b'.GoesTo i d (b'.handle (.mouse .press 2)) := by
  intro text disk request down steps
  have run : (Browser.start disk request).toOption.map (fun b =>
      let b' := b.takeAll steps
      ((b'.session.selectedPosition?, b'.session.outline.size, b'.pageRows, b'.scroll),
        b'.split.isDivider b'.mainArea 2, CodePane.lineAt? b'.view b'.codeArea b'.scroll 2,
        (b'.session.outline.startingOn? 4).isSome)) =
      some ((some 2, 3, 2, 2), false, some 4, true) := by
    -- The positions of the text are gone through one by one.  Sorting candidates is not.
    simp only [Browser.start, Session.loadFile, Session.setText, Session.renew, Detection.ofText_eq]
    decide +kernel
  obtain ⟨b, started, eq⟩ := exists_start_of_map run
  obtain ⟨numbers, eq⟩ := Prod.mk.inj eq
  obtain ⟨position, size, page, scroll⟩ : _ ∧ _ ∧ _ ∧ _ := by
    simpa only [Prod.mk.injEq] using numbers
  obtain ⟨beside, pointed, there⟩ : _ ∧ _ ∧ _ := by
    simpa only [Prod.mk.injEq] using eq
  obtain ⟨d, found⟩ := Option.isSome_iff_exists.mp there
  obtain ⟨-, -, keys, clicks, -⟩ := steps_and_clicks_reveal started steps
  obtain ⟨forward, back⟩ := keys (by rw [size]; decide)
  refine ⟨b, started, position, page, scroll, ?_, ?_, ?_⟩
  · have goes := forward .down (.inr rfl)
    rw [position, size] at goes
    exact goes
  · have goes := back .up (.inr rfl)
    rw [position] at goes
    exact goes
  · obtain ⟨i, goes⟩ := clicks 2 4 d beside pointed found
    exact ⟨i, d, Outline.firstLine_of_startingOn? found, goes⟩

end Browser
end CodeGloss
