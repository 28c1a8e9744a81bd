import CodeGloss.Proofs.Browser.Run

/-!
# What surrounds a session

Around its session a browser has the files, what is remembered of the workspace, and the divider.
These change for a few reasons only: the divider is moved or gripped, the source has been stored,
the screen is drawn, the files are changed by others.  Nothing that is done with the session, be it
to select, to ask or to read the source again, makes a difference to them.

So they can be followed by themselves: an event or a delivery has an effect on the surroundings
(`Surroundings.handle`, `Surroundings.receive`), and it is the one that it has on them as a part of
the browser (`Browser.surroundings_handle`, `Browser.surroundings_receive`).  What the divider and
the history go through is read off from these.
-/

namespace CodeGloss

/-- What a browser has around its session. -/
structure Surroundings where
  /-- The files. -/
  disk : Disk
  /-- The path of the source. -/
  path : String
  /-- The root of the workspace. -/
  root : String
  /-- What is remembered of the workspace. -/
  history : History
  /-- Where the divider stands. -/
  split : Split
  /-- Where the two panes were drawn last. -/
  mainArea : Area

namespace Surroundings

/-- What is remembered is saved, if that can be done. -/
def saved (s : Surroundings) : Surroundings :=
  match History.save s.disk s.root s.history with
  | .ok disk => { s with disk }
  | .error _ => s

/-- It is remembered where the divider stands. -/
def splitRemembered (s : Surroundings) : Surroundings :=
  { s with history := { s.history with splitPercent := some s.split.percent } }.saved

/-- The divider is gripped, and the grip let go that there may have been. -/
def gripped (s : Surroundings) : Surroundings :=
  { s with split := if s.split.grips = 0 then s.split.take else s.split.take.letGo }

/-- The effect of a key. -/
def handleKey (k : Key) (s : Surroundings) : Surroundings :=
  match k with
  | .char '+' | .char '=' => { s with split := s.split.grow }.splitRemembered
  | .char '-' => { s with split := s.split.shrink }.splitRemembered
  | _ => s

/-- The effect of the mouse. -/
def handleMouse (a : MouseAction) (row : Nat) (s : Surroundings) : Surroundings :=
  match a with
  | .press => if s.split.isDivider s.mainArea row then s.gripped else s
  | .drag => if s.split.grips = 0 then s else { s with split := s.split.dragTo s.mainArea row }
  | .release =>
    if s.split.grips = 0 then s else { s with split := s.split.letGo }.splitRemembered
  | _ => s

/-- The effect of an event. -/
def handle (s : Surroundings) : Browser.Event → Surroundings
  | .key k false => s.handleKey k
  | .mouse a row => s.handleMouse a row
  | .focusLost => { s with split := s.split.letGo }
  | _ => s

/-- The effect of a delivery. -/
def receive (s : Surroundings) : Delivery → Surroundings
  | .upload (.ok file) => { s with history := s.history.remember s.path file.id }.saved
  | _ => s

theorem saved_cases (s : Surroundings) :
    (∃ disk, History.save s.disk s.root s.history = .ok disk ∧ s.saved = { s with disk }) ∨
      (∃ report, History.save s.disk s.root s.history = .error report) ∧ s.saved = s := by
  unfold saved
  cases History.save s.disk s.root s.history with
  | ok disk => exact .inl ⟨disk, rfl, rfl⟩
  | error report => exact .inr ⟨⟨report, rfl⟩, rfl⟩

@[simp] theorem split_saved (s : Surroundings) : s.saved.split = s.split := by
  unfold saved
  split <;> rfl

end Surroundings

namespace Browser

/-- What a browser has around its session. -/
def surroundings (b : Browser) : Surroundings where
  disk := b.disk
  path := b.path
  root := b.root
  history := b.history
  split := b.split
  mainArea := b.mainArea

/-! ## What makes no difference -/

section Frame

variable (b : Browser)

@[simp] theorem surroundings_say (level : Level) (text : String) :
    (b.say level text).surroundings = b.surroundings :=
  rfl

@[simp] theorem surroundings_refresh : b.refresh.surroundings = b.surroundings :=
  rfl

@[simp] theorem surroundings_reveal (line : Nat) :
    (b.reveal line).surroundings = b.surroundings := by
  simp only [reveal]
  split
  · rfl
  · split <;> rfl

@[simp] theorem surroundings_followSelection :
    b.followSelection.surroundings = b.surroundings := by
  unfold followSelection
  split
  · rfl
  · simp only [surroundings_refresh, surroundings_reveal]
    rfl

@[simp] theorem surroundings_step (forward : Bool) :
    (b.step forward).surroundings = b.surroundings := by
  simp only [step]
  split
  · rfl
  · split
    · exact surroundings_followSelection _
    · rfl

@[simp] theorem surroundings_reportObstacle (o : Session.Obstacle) :
    (b.reportObstacle o).surroundings = b.surroundings := by
  cases o <;> rfl

@[simp] theorem surroundings_askGloss : b.askGloss.surroundings = b.surroundings := by
  unfold askGloss
  split
  · exact b.surroundings_reportObstacle _
  · split <;> rfl

@[simp] theorem surroundings_askDetail : b.askDetail.surroundings = b.surroundings := by
  unfold askDetail
  split
  · exact b.surroundings_reportObstacle _
  · split <;> rfl

@[simp] theorem surroundings_click (line : Nat) :
    (b.click line).surroundings = b.surroundings := by
  unfold click
  split
  · simp only [surroundings_askGloss, surroundings_followSelection]
    rfl
  · rfl

@[simp] theorem surroundings_reload (message : String) :
    (b.reload message).surroundings = b.surroundings := by
  unfold reload
  split <;> rfl

@[simp] theorem surroundings_workOn (n : Nat) (supply : Supply) :
    (b.workOn n supply).surroundings = b.surroundings := by
  unfold workOn
  split
  · rfl
  · unfold settle
    dsimp only
    split <;> rfl

end Frame

/-! ## What does -/

section Effects

variable (b : Browser)

@[simp] theorem surroundings_saveHistory :
    b.saveHistory.surroundings = b.surroundings.saved := by
  show _ = match History.save b.disk b.root b.history with
    | .ok disk => { b.surroundings with disk }
    | .error _ => b.surroundings
  unfold saveHistory
  cases History.save b.disk b.root b.history <;> rfl

@[simp] theorem surroundings_rememberSplit :
    b.rememberSplit.surroundings = b.surroundings.splitRemembered :=
  surroundings_saveHistory _

theorem surroundings_handleKey (k : Key) :
    (b.handleKey k).surroundings = b.surroundings.handleKey k := by
  unfold handleKey Surroundings.handleKey
  split
  case h_3 | h_4 => exact b.surroundings_step true
  case h_5 | h_6 => exact b.surroundings_step false
  case h_7 => exact b.surroundings_askGloss
  case h_8 => exact b.surroundings_askDetail
  case h_10 => exact b.surroundings_reload _
  case h_11 | h_12 | h_13 => exact surroundings_rememberSplit _
  case h_16 =>
    split
    case h_4 => rfl
    all_goals contradiction
  all_goals rfl

theorem surroundings_handleMouse (a : MouseAction) (row : Nat) :
    (b.handleMouse a row).surroundings = b.surroundings.handleMouse a row := by
  cases a with
  | press =>
    simp only [handleMouse, Surroundings.handleMouse]
    by_cases divider : b.split.isDivider b.mainArea row = true
    · rw [if_pos divider, if_pos (by exact divider)]
      rfl
    · rw [if_neg divider, if_neg (by exact divider)]
      split
      · exact b.surroundings_click _
      · rfl
  | drag =>
    simp only [handleMouse, Surroundings.handleMouse]
    by_cases free : b.split.grips = 0
    · rw [if_pos free, if_pos (by exact free)]
    · rw [if_neg free, if_neg (by exact free)]
      rfl
  | release =>
    simp only [handleMouse, Surroundings.handleMouse]
    by_cases free : b.split.grips = 0
    · rw [if_pos free, if_pos (by exact free)]
    · rw [if_neg free, if_neg (by exact free)]
      exact surroundings_rememberSplit _
  | _ => rfl

/-- The effect of an event on the surroundings is up to them. -/
theorem surroundings_handle (e : Event) :
    (b.handle e).surroundings = b.surroundings.handle e := by
  cases e with
  | key k control =>
    cases control with
    | true =>
      simp only [handle]
      split <;> rfl
    | false => exact b.surroundings_handleKey k
  | mouse a row => exact b.surroundings_handleMouse a row
  | focusLost => rfl
  | other => rfl

/-- The effect of a delivery on the surroundings is up to them. -/
theorem surroundings_receive (delivery : Delivery) :
    (b.receive delivery).surroundings = b.surroundings.receive delivery := by
  cases delivery with
  | gloss request outcome =>
    simp only [receive]
    split
    · rfl
    · cases outcome with
      | error failure => rfl
      | ok resolution => cases resolution <;> rfl
  | detail request outcome =>
    simp only [receive]
    split
    · rfl
    · cases outcome with
      | error failure => rfl
      | ok resolution => cases resolution <;> rfl
  | upload result =>
    cases result with
    | error failure => rfl
    | ok file =>
      simp only [receive, surroundings_say, surroundings_saveHistory, surroundings_refresh]
      rfl

theorem surroundings_receiveAll :
    b.receiveAll.surroundings = b.deliveries.foldl Surroundings.receive b.surroundings := by
  unfold receiveAll
  suffices along : ∀ (ds : List Delivery) (b : Browser),
      (ds.foldl receive b).surroundings = ds.foldl Surroundings.receive b.surroundings from along _ _
  intro ds
  induction ds with
  | nil => exact fun b => rfl
  | cons d rest ih =>
    intro b
    rw [List.foldl_cons, List.foldl_cons, ih, surroundings_receive]

/-- When time passes all deliveries have their effect. -/
theorem surroundings_tick :
    b.tick.surroundings = b.deliveries.foldl Surroundings.receive b.surroundings := by
  unfold tick
  split
  next => exact b.surroundings_receiveAll
  next w _ =>
    dsimp only
    split
    · rw [surroundings_receiveAll, surroundings_reload]
      congr 1
      unfold reload
      split <;> rfl
    · rw [surroundings_receiveAll]
      rfl

/-- What surrounds a browser that is started. -/
theorem surroundings_start {disk : Disk} {request : Request} {b : Browser}
    (started : Browser.start disk request = .ok b) :
    ∃ history, History.loadOrEmpty disk request.root = .ok history ∧
      b.surroundings =
        { disk := disk
          path := request.path
          root := request.root
          history := history
          split := .ofPercent (history.splitPercent.getD request.settings.display.splitPercent)
          mainArea := {} } := by
  obtain ⟨history, text, remembered, -, ⟨fileId, rfl⟩ | rfl⟩ := start_cases started
  · exact ⟨history, remembered, rfl⟩
  · exact ⟨history, remembered, rfl⟩

end Effects

end Browser
end CodeGloss
