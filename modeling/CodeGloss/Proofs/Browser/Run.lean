import CodeGloss.Browser.Draw

/-!
# Runs of the browser

What happens to a browser happens step by step (`Browser.Step`).  The user presses a key or uses the
mouse, the screen is drawn, the files change, time passes.  In between, a task goes on as far as the
answers allow that the service has given by then, and a delivery is looked at.

In a step of the background only one task goes on or only one delivery is looked at, whichever it
is, and every such step has answers of its own.  So the tasks may overtake one another, and an
answer may come at any time or not at all.  What the browser does with all its tasks and all its
deliveries at a time is a run of such steps (`Browser.exists_work_eq`, `Browser.receiveAll_eq`).
-/

namespace CodeGloss
namespace Browser

/-! ## Steps -/

/-- What can happen to a browser. -/
inductive Step where
  /-- The user does something. -/
  | event (e : Event)
  /-- The browser is drawn. -/
  | draw (width height : Nat)
  /-- The files change, in whatever way. -/
  | edit (disk : Disk)
  /-- The browser is told of something that happens to a file. -/
  | notice (e : CodeGloss.Event)
  /-- Time passes. -/
  | tick
  /-- The task at a position goes on, by the answers that there are. -/
  | work (n : Nat) (supply : Supply)
  /-- The delivery at a position is looked at. -/
  | receive (n : Nat)

/-- The browser after the task at a position was polled. -/
def settle (n : Nat) (polled : Broker × (Task ⊕ Delivery)) (b : Browser) : Browser :=
  let b := { b with session := { b.session with broker := polled.1 } }
  match polled.2 with
  | .inl task => { b with tasks := b.tasks.set n task }
  | .inr delivery =>
    { b with tasks := b.tasks.eraseIdx n, deliveries := b.deliveries ++ [delivery] }

/-- Takes the task at a position as far as the answers at hand allow. -/
def workOn (n : Nat) (supply : Supply) (b : Browser) : Browser :=
  match b.tasks[n]? with
  | none => b
  | some task => b.settle n (task.poll supply b.session.broker)

/-- Looks at the delivery at a position. -/
def receiveAt (n : Nat) (b : Browser) : Browser :=
  match b.deliveries[n]? with
  | none => b
  | some delivery => { b with deliveries := b.deliveries.eraseIdx n }.receive delivery

/-- The browser after a step. -/
def take (b : Browser) : Step → Browser
  | .event e => b.handle e
  | .draw width height => (b.draw width height).1
  | .edit disk => { b with disk }
  | .notice e => b.notice e
  | .tick => b.tick
  | .work n supply => b.workOn n supply
  | .receive n => b.receiveAt n

/-- The browser after some steps. -/
def takeAll (steps : List Step) (b : Browser) : Browser :=
  steps.foldl take b

/-! ## The start -/

/-- The browser for a request before the source is shown. -/
def blank (disk : Disk) (r : Request) (history : History) : Browser where
  disk := disk
  path := r.path
  root := r.root
  theme := r.settings.display.theme
  session := { options := r.settings.detector.options, hint := r.hint }
  split := .ofPercent (history.splitPercent.getD r.settings.display.splitPercent)
  watch := if r.watches then (Watch.start disk r.path).toOption else none
  history := history

/-- A browser is started with what is remembered of the workspace and with the source, either as a
file that it is stored as or as a mere text. -/
theorem start_cases {disk : Disk} {r : Request} {b : Browser}
    (started : Browser.start disk r = .ok b) :
    ∃ history text, History.loadOrEmpty disk r.root = .ok history ∧
      readSource disk r.path = .ok text ∧
      let blank := Browser.blank disk r history
      ((∃ fileId, b = { blank with session := blank.session.loadFile fileId text }.refresh) ∨
        b = ({ blank with session := (blank.session.setText text).1 }.say .info
          "Not uploaded yet · press u to upload").refresh) := by
  unfold Browser.start at started
  cases remembered : History.loadOrEmpty disk r.root with
  | error report =>
    rw [remembered] at started
    cases started
  | ok history =>
    cases source : readSource disk r.path with
    | error report =>
      rw [remembered, source] at started
      cases started
    | ok text =>
      rw [remembered, source] at started
      simp only [bind, Except.bind] at started
      split at started
      next fileId _ =>
        cases started
        exact ⟨history, text, rfl, rfl, .inl ⟨fileId, rfl⟩⟩
      next =>
        cases started
        exact ⟨history, text, rfl, rfl, .inr rfl⟩

/-- What a run from the start comes to shows that there is one. -/
theorem exists_start_of_map {α : Type} {disk : Disk} {request : Request} {f : Browser → α} {x : α}
    (run : (Browser.start disk request).toOption.map f = some x) :
    ∃ b, Browser.start disk request = .ok b ∧ f b = x := by
  cases started : Browser.start disk request with
  | error report =>
    rw [started] at run
    cases run
  | ok b =>
    rw [started] at run
    exact ⟨b, rfl, Option.some.inj run⟩

/-! ## All deliveries at a time -/

/-- What is done with a delivery does not depend on the others. -/
theorem receive_deliveries (b : Browser) (others : List Delivery) (delivery : Delivery) :
    { b with deliveries := others }.receive delivery =
      { b.receive delivery with deliveries := others } := by
  cases delivery with
  | gloss request outcome =>
    simp only [receive]
    split
    · rfl
    · cases outcome with
      | error failure => rfl
      | ok resolution => cases resolution <;> rfl
  | detail request outcome =>
    simp only [receive]
    split
    · rfl
    · cases outcome with
      | error failure => rfl
      | ok resolution => cases resolution <;> rfl
  | upload result =>
    cases result with
    | error failure => rfl
    | ok file =>
      simp only [receive, saveHistory, refresh]
      split <;> rfl

/-- To look at the oldest delivery is one of the steps. -/
theorem receiveNext_eq (b : Browser) : b.receiveNext.1 = b.receiveAt 0 := by
  unfold receiveNext receiveAt
  cases eq : b.deliveries <;> simp

/-- To look at all deliveries is to look at the oldest one, over and over. -/
theorem receiveAll_eq (b : Browser) :
    b.receiveAll = b.takeAll (List.replicate b.deliveries.length (.receive 0)) := by
  suffices along : ∀ (ds : List Delivery) (b : Browser), b.deliveries = ds →
      ds.foldl receive { b with deliveries := [] } =
        b.takeAll (List.replicate ds.length (.receive 0)) from along _ b rfl
  intro ds
  induction ds with
  | nil =>
    intro b none_
    show { b with deliveries := [] } = b
    rw [← none_]
  | cons d rest ih =>
    intro b eq
    have first : b.receiveAt 0 = { b.receive d with deliveries := rest } := by
      rw [receiveAt, eq, ← receive_deliveries]
      rfl
    rw [List.foldl_cons, receive_deliveries, List.length_cons, List.replicate_succ]
    show _ = (b.receiveAt 0).takeAll _
    rw [first, ← ih _ rfl]

/-! ## All tasks at a time -/

/-- To take all tasks as far as the answers at hand allow is to do so with one after the other. -/
theorem exists_work_eq (supply : Supply) (b : Browser) :
    ∃ positions : List Nat, b.work supply = b.takeAll (positions.map (.work · supply)) := by
  suffices along : ∀ (back front : List Task) (b : Browser), b.tasks = front ++ back →
      ∃ positions : List Nat, b.takeAll (positions.map (.work · supply)) =
        { b with
          session :=
            { b.session with
              broker := (Broker.serve (Task.poll supply) b.session.broker back).1 }
          tasks := front ++ (Broker.serve (Task.poll supply) b.session.broker back).2.1
          deliveries :=
            b.deliveries ++ (Broker.serve (Task.poll supply) b.session.broker back).2.2 } by
    obtain ⟨positions, eq⟩ := along b.tasks [] b rfl
    exact ⟨positions, eq.symm⟩
  intro back
  induction back with
  | nil =>
    intro front b eq
    refine ⟨[], ?_⟩
    simp only [Broker.serve, List.append_nil] at eq ⊢
    rw [← eq]
    rfl
  | cons task rest ih =>
    intro front b eq
    have here : b.tasks[front.length]? = some task := by
      rw [eq, List.getElem?_append_right (Nat.le_refl _), Nat.sub_self]
      rfl
    have polled : b.workOn front.length supply =
        b.settle front.length (task.poll supply b.session.broker) := by
      rw [workOn, here]
    rcases poll : task.poll supply b.session.broker with ⟨broker, waiting | delivery⟩
    · -- A task that goes on waiting stays in front of those that are still to be polled.
      obtain ⟨positions, eq'⟩ := ih (front ++ [waiting])
        (b.settle front.length (broker, .inl waiting)) (by simp [settle, eq])
      refine ⟨front.length :: positions, ?_⟩
      show (b.workOn front.length supply).takeAll _ = _
      rw [polled, poll, eq']
      simp only [settle, Broker.serve, poll, List.append_assoc, List.singleton_append]
    · obtain ⟨positions, eq'⟩ := ih front (b.settle front.length (broker, .inr delivery))
        (by simp [settle, eq, List.eraseIdx_append_of_length_le])
      refine ⟨front.length :: positions, ?_⟩
      show (b.workOn front.length supply).takeAll _ = _
      rw [polled, poll, eq']
      simp only [settle, Broker.serve, poll, List.append_assoc, List.singleton_append]

end Browser
end CodeGloss
