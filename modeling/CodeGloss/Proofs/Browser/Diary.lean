import CodeGloss.Proofs.Browser.Sound
import Mathlib.Data.List.Induction

/-!
# The diary of a browser

A diary accompanies a browser through a run.  It keeps the books of the browser's broker and writes
down every demand that a task makes.  It changes nothing: the browser of the diary does what the
browser does without one (`Diary.browser_run`).

What holds of a browser and its books then holds at every moment of every run (`Diary.sound_run`),
from wherever the browser is started.
-/

namespace CodeGloss

open Service (Answer Inquiry)
open Browser (Step)

/-- A browser with the books of its broker. -/
structure Diary where
  /-- The browser. -/
  browser : Browser
  /-- The books. -/
  books : Books
  /-- What was demanded of the broker. -/
  demands : List Demand := []

namespace Diary

/-! ## Runs -/

/-- The diary of a browser to which nothing has happened. -/
def start (b : Browser) : Diary where
  browser := b
  books := { broker := b.session.broker }

/-- The diary after a step. -/
def take (d : Diary) (step : Step) : Diary :=
  match step with
  | .work n supply =>
    match d.browser.tasks[n]? with
    | none => d
    | some task =>
      { browser := d.browser.workOn n supply
        books := (d.books.pollTask supply task).1
        demands := d.demands ++ task.demands }
  | step =>
    { d with
      browser := d.browser.take step
      books := { d.books with broker := (d.browser.take step).session.broker } }

/-- The diary after some steps. -/
def run (b : Browser) (steps : List Step) : Diary :=
  steps.foldl take (start b)

theorem run_snoc (b : Browser) (steps : List Step) (step : Step) :
    run b (steps ++ [step]) = (run b steps).take step := by
  rw [run, List.foldl_append]
  rfl

theorem browser_take (d : Diary) (step : Step) : (d.take step).browser = d.browser.take step := by
  cases step with
  | work n supply =>
    simp only [take, Browser.take]
    cases here : d.browser.tasks[n]? with
    | none => simp only [Browser.workOn, here]
    | some task => rfl
  | _ => rfl

/-- **The browser does not mind the diary.** -/
theorem browser_run (b : Browser) (steps : List Step) :
    (run b steps).browser = b.takeAll steps := by
  induction steps using List.reverseRecOn with
  | nil => rfl
  | append_singleton steps step ih =>
    rw [run_snoc, browser_take, ih, Browser.takeAll, Browser.takeAll, List.foldl_append]
    rfl

/-! ## What holds at every moment -/

/-- What holds of the diary after some steps. -/
structure Sound (steps : List Step) (d : Diary) : Prop where
  core : d.browser.core.Sound d.books
  /-- Every inquiry with a key is for something that was demanded. -/
  origin : d.books.From fun x fileId => .gloss x fileId ∈ d.demands
  /-- An answer that was taken was at hand when a task went on. -/
  receipts : ∀ r ∈ d.books.receipts, ∃ n supply s, .work n supply ∈ steps ∧
    d.books.slips[r.1]? = some s ∧ supply r.1 s.inquiry = some r.2

section Start

variable {disk : Disk} {request : Browser.Request} {b : Browser}

/-- A browser starts with an empty panel and no tasks, and its broker is a new one or one for which
a file was just loaded. -/
theorem core_start (started : Browser.start disk request = .ok b) :
    b.core = ⟨b.session, {}, [], []⟩ ∧
      ((b.session.broker = {} ∧ b.session.fileId = none) ∨
        ∃ fileId, b.session.broker = Broker.switchFile (some fileId) {} ∧
          b.session.fileId = some fileId) := by
  obtain ⟨history, text, -, -, ⟨fileId, rfl⟩ | rfl⟩ := Browser.start_cases started
  · exact ⟨rfl, .inr ⟨fileId, rfl, rfl⟩⟩
  · exact ⟨rfl, .inl ⟨rfl, rfl⟩⟩

/-- A browser with an empty panel and no tasks is in order if its broker is. -/
theorem sound_new {s : Session} {k : Books} (broker : k.broker = s.broker) (books : k.InOrder)
    (file : s.broker.fileId = s.fileId) : (⟨s, {}, [], []⟩ : Core).Sound k where
  broker := broker
  books := books
  file := file
  task q ticket mem := by cases mem
  told request r text mem said := by cases mem
  ready text ready := by cases ready
  loading place loading := by cases place <;> cases loading

theorem sound_start (started : Browser.start disk request = .ok b) : (start b).Sound [] := by
  obtain ⟨core, opened⟩ := core_start started
  have books : (start b).books.InOrder ∧ b.session.broker.fileId = b.session.fileId ∧
      b.session.broker.fetches = [] := by
    rcases opened with ⟨broker, loaded⟩ | ⟨fileId, broker, loaded⟩
    · rw [start, broker, loaded]
      exact ⟨Books.inOrder_empty, rfl, rfl⟩
    · rw [start, broker, loaded]
      exact ⟨Books.inOrder_empty.switchFile (some fileId), rfl, rfl⟩
  obtain ⟨inOrder, file, fetches⟩ := books
  exact {
    core := by
      show b.core.Sound _
      rw [core]
      exact sound_new rfl inOrder file
    origin := ⟨by simp [start, fetches], by simp [start]⟩
    receipts := by simp [start] }

end Start

section Take

variable {steps : List Step} {d : Diary} (h : d.Sound steps)
include h

/-- In a step without answers nothing is written into the books. -/
theorem Sound.idle {step : Step} (idle : step.isWork = false) :
    (d.take step).Sound (steps ++ [step]) := by
  have eq : d.take step =
      { d with
        browser := d.browser.take step
        books := { d.books with broker := (d.browser.take step).session.broker } } := by
    cases step with
    | work n supply => cases idle
    | _ => rfl
  have moves := d.browser.moves_take idle
  have fetches : (d.browser.take step).session.broker.fetches = d.books.broker.fetches := by
    rw [h.core.broker]
    exact Core.fetches_moves moves
  rw [eq]
  exact {
    core := h.core.moves moves
    origin := ⟨fun there => h.origin.fetch (fetches ▸ there), h.origin.slip⟩
    receipts := fun r mem => by
      obtain ⟨n, supply, s, step_mem, rest⟩ := h.receipts r mem
      exact ⟨n, supply, s, List.mem_append_left _ step_mem, rest⟩ }

/-- In a step with answers those are taken that the task waits for. -/
theorem Sound.work (n : Nat) (supply : Supply) :
    (d.take (.work n supply)).Sound (steps ++ [.work n supply]) := by
  have before : ∀ r ∈ d.books.receipts, ∃ n' supply' s,
      .work n' supply' ∈ steps ++ [.work n supply] ∧ d.books.slips[r.1]? = some s ∧
        supply' r.1 s.inquiry = some r.2 := by
    intro r mem
    obtain ⟨n', supply', s, step_mem, rest⟩ := h.receipts r mem
    exact ⟨n', supply', s, List.mem_append_left _ step_mem, rest⟩
  cases here : d.browser.tasks[n]? with
  | none =>
    simp only [take, here]
    exact ⟨h.core, h.origin, before⟩
  | some task =>
    simp only [take, here]
    exact {
      core := by
        show (d.browser.workOn n supply).core.Sound _
        rw [d.browser.core_workOn supply here]
        exact h.core.settle here supply
      origin := by
        refine h.origin.pollTask supply ?_ ?_
        · exact fun x fileId mem => List.mem_append_left _ mem
        · exact fun x fileId mem => List.mem_append_right _ mem
      receipts := fun r mem => by
        rcases Books.mem_receipts_pollTask supply h.core.books.sound mem with
          old | ⟨s, slip, given⟩
        · obtain ⟨n', supply', s, step_mem, slip, given⟩ := before r old
          exact ⟨n', supply', s, step_mem, (Books.grows_pollTask supply task).slip slip, given⟩
        · exact ⟨n, supply, s, List.mem_append_right _ (List.mem_singleton.mpr rfl), slip, given⟩ }

end Take

/-- **The diary of every run is sound.** -/
theorem sound_run {disk : Disk} {request : Browser.Request} {b : Browser}
    (started : Browser.start disk request = .ok b) (steps : List Step) :
    (run b steps).Sound steps := by
  induction steps using List.reverseRecOn with
  | nil => exact sound_start started
  | append_singleton steps step ih =>
    rw [run_snoc]
    cases step with
    | work n supply => exact ih.work n supply
    | _ => exact ih.idle rfl

end Diary
end CodeGloss
