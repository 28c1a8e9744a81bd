import CodeGloss.Browser.State

/-!
# What the browser does

The browser is driven by events: keys, the mouse, what comes of its tasks, changes to the source.
Requests to the service are put into tasks, which go on by themselves (`Browser.work`) and whose
deliveries are looked at one by one (`Browser.receive`).  A delivery only counts if it is about the
definition and the file that are shown by then.
-/

namespace CodeGloss

/-- A key. -/
inductive Key where
  /-- The key of a character. -/
  | char (c : Char)
  | enter
  | escape
  | up
  | down
  | pageUp
  | pageDown
  /-- A key that means nothing here. -/
  | other
deriving DecidableEq, Repr

/-- What is done with the mouse. -/
inductive MouseAction where
  /-- The left button is pressed. -/
  | press
  /-- The mouse is moved with the left button down. -/
  | drag
  /-- The left button is released. -/
  | release
  /-- The wheel is turned forward. -/
  | wheelUp
  /-- The wheel is turned backward. -/
  | wheelDown
  /-- Something that means nothing here. -/
  | other
deriving DecidableEq, Repr

/-- What happens to the browser. -/
inductive Browser.Event where
  /-- A key is pressed, perhaps together with the control key. -/
  | key (key : Key) (control : Bool)
  /-- The mouse is used on a row of the screen. -/
  | mouse (action : MouseAction) (row : Nat)
  /-- The window loses the focus. -/
  | focusLost
  /-- Something that means nothing here. -/
  | other
deriving DecidableEq, Repr

namespace Browser

/-! ## Selecting -/

/-- Has the panel, the window and the view follow a change of the selection. -/
def followSelection (b : Browser) : Browser :=
  match b.session.selected? with
  | none => { b with panel := {} }.refresh
  | some d =>
    let panel := Panel.showing d
    let panel := match b.session.broker.get? d with
      | some text => { panel with gloss := .ready text }
      | none => panel
    ({ b with panel }.reveal d.firstLine).refresh

/-- The position that a step leads to: the next one or the one before, within the outline; from no
selection the first or the last. -/
def stepTarget (forward : Bool) (count : Nat) : Option Nat → Nat
  | some position => if forward then min (position + 1) (count - 1) else min (position - 1) (count - 1)
  | none => if forward then 0 else count - 1

/-- Selects the next definition, or the one before. -/
def step (forward : Bool) (b : Browser) : Browser :=
  let count := b.session.outline.size
  if count = 0 then b
  else
    let target := stepTarget forward count b.session.selectedPosition?
    let b := { b with session := b.session.selectPosition target }
    if b.session.selected?.isSome then b.followSelection else b

/-! ## Asking -/

/-- Says why nothing can be asked of the service. -/
def reportObstacle (o : Session.Obstacle) (b : Browser) : Browser :=
  match o with
  | .noFile => b.say .error "Upload the file first (press u)"
  | .noSelection => b.say .info o.message

/-- Asks for the annotation of the selected definition, unless it is known. -/
def askGloss (b : Browser) : Browser :=
  match b.session.request with
  | .error o => b.reportObstacle o
  | .ok request =>
    match b.session.broker.get? request.definition with
    | some text => { b with panel := { b.panel with gloss := .ready text } }
    | none =>
      { b with
        panel := { b.panel with gloss := .loading }
        tasks := b.tasks ++ [.gloss request none] }

/-- Asks for more detail than the annotation that is shown gives. -/
def askDetail (b : Browser) : Browser :=
  match b.session.request with
  | .error o => b.reportObstacle o
  | .ok request =>
    match b.panel.gloss.text? with
    | none => b.say .info "Annotate the definition first"
    | some current =>
      { b with
        panel := { b.panel with detail := .loading }
        tasks := b.tasks ++ [.detail request current none] }

/-- Has the source stored. -/
def upload (b : Browser) : Browser :=
  let name := Path.shownName b.path
  let b := b.say .info ("Uploading " ++ name ++ "…")
  { b with tasks := b.tasks ++ [.upload name b.session.text none] }

/-- Selects the definition that starts on a line, if there is one, and asks for its annotation. -/
def click (line : Nat) (b : Browser) : Browser :=
  match b.session.selectLine line with
  | .ok (session, _) => ({ b with session }.followSelection).askGloss
  | .error _ => b

/-! ## Reading again -/

/-- Reads the source again, and says so. -/
def reload (message : String) (b : Browser) : Browser :=
  match readSource b.disk b.path with
  | .error report => b.say .error report.line
  | .ok text =>
    let (session, gone) := b.session.setText text
    let b := { b with session, panel := if gone then {} else b.panel }.refresh
    { b with scroll := min b.scroll b.lastScroll }.say .info message

/-! ## Deliveries -/

/-- Looks at what has come of a task. -/
def receive (b : Browser) : Delivery → Browser
  | .gloss request outcome =>
    if !b.session.isCurrent request then b
    else
      match outcome with
      | .ok resolution =>
        match resolution.text? with
        | some text => { b with panel := { b.panel with gloss := .ready text } }
        | none => b
      | .error failure =>
        { b with panel := { b.panel with gloss := .failed failure.message } }.say .error
          ("Annotation failed: " ++ failure.message)
  | .detail request outcome =>
    if !b.session.isCurrent request then b
    else
      match outcome with
      | .ok resolution =>
        match resolution.text? with
        | some text => { b with panel := { b.panel with detail := .ready text } }
        | none => b
      | .error failure =>
        { b with panel := { b.panel with detail := .failed failure.message } }.say .error
          ("Detail request failed: " ++ failure.message)
  | .upload (.ok file) =>
    let b :=
      { b with
        session := b.session.loadFile file.id b.session.text
        history := b.history.remember b.path file.id
        panel := {} }
    b.refresh.saveHistory.say .success ("Uploaded " ++ file.name ++ " as " ++ file.id)
  | .upload (.error failure) => b.say .error ("Upload failed: " ++ failure.message)

/-- Looks at the oldest delivery.  Also says whether there was one. -/
def receiveNext (b : Browser) : Browser × Bool :=
  match b.deliveries with
  | [] => (b, false)
  | d :: rest => ({ b with deliveries := rest }.receive d, true)

/-- Looks at all deliveries, the oldest first. -/
def receiveAll (b : Browser) : Browser :=
  b.deliveries.foldl receive { b with deliveries := [] }

/-- Takes all tasks as far as the answers at hand allow. -/
def work (supply : Supply) (b : Browser) : Browser :=
  let (broker, tasks, done) := Broker.serve (Task.poll supply) b.session.broker b.tasks
  { b with
    session := { b.session with broker }
    tasks := tasks
    deliveries := b.deliveries ++ done }

/-- What the browser does between two events: it reads the source again if that has changed, and
looks at all deliveries. -/
def tick (b : Browser) : Browser :=
  match b.watch with
  | none => b.receiveAll
  | some w =>
    let (changed, watch) := w.ask
    let b := { b with watch := some watch }
    (if changed then b.reload "File changed on disk; spans refreshed" else b).receiveAll

/-- Notes what happens to a file. -/
def notice (e : CodeGloss.Event) (b : Browser) : Browser :=
  { b with watch := b.watch.map fun w => w.notice e }

/-! ## Events -/

/-- How many rows the wheel moves the window. -/
def wheelRows : Nat := 3

/-- The browser after a key was pressed. -/
def handleKey (k : Key) (b : Browser) : Browser :=
  match k with
  | .char 'q' | .escape => { b with leaving := true }
  | .char 'j' | .down => b.step true
  | .char 'k' | .up => b.step false
  | .enter => b.askGloss
  | .char 'm' => b.askDetail
  | .char 'u' => b.upload
  | .char 'r' => b.reload "Reloaded from disk"
  | .char '+' | .char '=' => { b with split := b.split.grow }.rememberSplit
  | .char '-' => { b with split := b.split.shrink }.rememberSplit
  | .pageDown => b.scrollDown b.pageRows
  | .pageUp => b.scrollUp b.pageRows
  | _ => b

/-- Takes a grip on the divider, and lets go the one there may have been. -/
def grip (b : Browser) : Browser :=
  let split := b.split.take
  { b with split := if b.split.grips = 0 then split else split.letGo }

/-- The browser after something was done with the mouse on a row of the screen. -/
def handleMouse (a : MouseAction) (row : Nat) (b : Browser) : Browser :=
  match a with
  | .press =>
    if b.split.isDivider b.mainArea row then b.grip
    else
      match CodePane.lineAt? b.view b.codeArea b.scroll row with
      | some line => b.click line
      | none => b
  | .drag => if b.split.grips = 0 then b else { b with split := b.split.dragTo b.mainArea row }
  | .release =>
    if b.split.grips = 0 then b else { b with split := b.split.letGo }.rememberSplit
  | .wheelDown => b.scrollDown wheelRows
  | .wheelUp => b.scrollUp wheelRows
  | .other => b

/-- The browser after an event.  With the control key only two keys mean anything.  When the window
loses the focus the divider is let go, since the button may be released elsewhere. -/
def handle (b : Browser) : Event → Browser
  | .key k true =>
    if k = .char 'c' || k = .char 'q' then { b with leaving := true } else b
  | .key k false => b.handleKey k
  | .mouse a row => b.handleMouse a row
  | .focusLost => { b with split := b.split.letGo }
  | .other => b

end Browser
end CodeGloss
