import CodeGloss.Proofs.History.Recordings

/-!
# Two copies of a history

A browser loads the history when it is started and goes by its own copy from then on.  Whatever it has
to remember it puts into its copy, and then saves the whole of it.  Other processes load the history
from disk and save it there.  So what becomes of the two copies can be told from a list of memos
(`Copies.note`), and it shows what is wrong with it: a save of the browser takes everything back that
others have recorded since the browser was started.

Nothing is lost as long as no save comes after something that others recorded
(`Copies.uploads_noteAll`).
-/

namespace CodeGloss

/-- Something of consequence to the history of a workspace with a browser. -/
inductive Memo where
  /-- The browser is told what its source was stored as, and remembers it. -/
  | stored (path fileId : String)
  /-- The browser remembers where its divider stands. -/
  | placed (percent : Nat)
  /-- The browser saves what it remembers. -/
  | saved
  /-- Another process records something. -/
  | recorded (r : Recording)
deriving DecidableEq, Repr

namespace Memo

/-- What is recorded, by the browser or by another process. -/
def recording? : Memo → Option Recording
  | stored path fileId => some (.upload path fileId)
  | recorded r => some r
  | _ => none

/-- Everything that is recorded, in order. -/
def recordings (memos : List Memo) : List Recording :=
  memos.filterMap recording?

/-- Whether the browser saves everything that it is told at once. -/
def savedAtOnce : List Memo → Bool
  | [] => true
  | .stored _ _ :: .saved :: rest => savedAtOnce rest
  | .stored _ _ :: _ => false
  | _ :: rest => savedAtOnce rest

/-- Whether the browser saves nothing after others have recorded something. -/
def InTime (memos : List Memo) : Prop :=
  memos.Pairwise fun earlier later => later = .saved → ∀ r, earlier ≠ .recorded r

variable {memos : List Memo}

theorem exists_of_savedAtOnce {path fileId : String}
    (atOnce : savedAtOnce (.stored path fileId :: memos) = true) :
    ∃ rest, memos = .saved :: rest ∧ savedAtOnce rest = true := by
  unfold savedAtOnce at atOnce
  split at atOnce
  case h_2 rest heads =>
    cases heads
    exact ⟨rest, rfl, atOnce⟩
  case h_4 other heads =>
    cases heads
    exact absurd rfl (other path fileId)
  all_goals contradiction

end Memo

/-- The two copies of a history. -/
structure Copies where
  /-- What the browser remembers. -/
  browser : History
  /-- What is on disk. -/
  disk : History

namespace Copies

/-- What becomes of the two copies. -/
def note (c : Copies) : Memo → Copies
  | .stored path fileId => { c with browser := c.browser.remember path fileId }
  | .placed percent => { c with browser := { c.browser with splitPercent := some percent } }
  | .saved => { c with disk := c.browser }
  | .recorded r => { c with disk := Recording.apply c.disk r }

/-- What becomes of the two copies in the end. -/
def noteAll (memos : List Memo) (c : Copies) : Copies :=
  memos.foldl note c

theorem noteAll_append (front back : List Memo) (c : Copies) :
    c.noteAll (front ++ back) = (c.noteAll front).noteAll back :=
  List.foldl_append

/-- As far as the uploads go it is enough to know the uploads before. -/
theorem uploads_applyAll_congr {h h' : History} (same : h.uploads = h'.uploads)
    (rs : List Recording) :
    (Recording.applyAll rs h).uploads = (Recording.applyAll rs h').uploads := by
  induction rs generalizing h h' with
  | nil => exact same
  | cons r rs ih =>
    refine ih ?_
    cases r with
    | upload path fileId => exact congrArg (Table.insert (Path.text path) fileId) same
    | deletion fileId => exact congrArg (List.filter _) same

/-- While the browser saves nothing, others keep the history on disk. -/
theorem disk_noteAll (memos : List Memo) (atOnce : Memo.savedAtOnce memos = true)
    (unsaved : .saved ∉ memos) (c : Copies) :
    (c.noteAll memos).disk = Recording.applyAll (Memo.recordings memos) c.disk := by
  induction memos generalizing c with
  | nil => rfl
  | cons memo rest ih =>
    have unsaved' : Memo.saved ∉ rest := fun mem => unsaved (List.mem_cons_of_mem memo mem)
    cases memo with
    | stored path fileId =>
      obtain ⟨_, rfl, -⟩ := Memo.exists_of_savedAtOnce atOnce
      exact absurd List.mem_cons_self unsaved'
    | placed percent => exact ih atOnce unsaved' _
    | saved => exact absurd List.mem_cons_self unsaved
    | recorded r => exact ih atOnce unsaved' _

/-- **When nothing is lost.**  As long as the browser saves at once what it is told, and nothing after
others have recorded something, all that is recorded is on disk. -/
theorem uploads_noteAll (memos : List Memo) (atOnce : Memo.savedAtOnce memos = true)
    (inTime : Memo.InTime memos) {c : Copies} (same : c.browser.uploads = c.disk.uploads) :
    (c.noteAll memos).disk.uploads =
      (Recording.applyAll (Memo.recordings memos) c.disk).uploads := by
  match memos with
  | [] => rfl
  | .placed percent :: rest => exact uploads_noteAll rest atOnce inTime.of_cons same
  | .saved :: rest =>
    calc
      ((c.note .saved).noteAll rest).disk.uploads
          = (Recording.applyAll (Memo.recordings rest) c.browser).uploads :=
        uploads_noteAll rest atOnce inTime.of_cons rfl
      _ = _ := uploads_applyAll_congr same _
  | .stored path fileId :: rest =>
    obtain ⟨rest, rfl, atOnce⟩ := Memo.exists_of_savedAtOnce atOnce
    calc
      (((c.note (.stored path fileId)).note .saved).noteAll rest).disk.uploads
          = (Recording.applyAll (Memo.recordings rest) (c.browser.remember path fileId)).uploads :=
        uploads_noteAll rest atOnce inTime.of_cons.of_cons rfl
      _ = (Recording.applyAll (Memo.recordings rest) (c.disk.remember path fileId)).uploads :=
        uploads_applyAll_congr (congrArg (Table.insert (Path.text path) fileId) same) _
  | .recorded r :: rest =>
    have unsaved : Memo.saved ∉ rest := fun mem =>
      (List.pairwise_cons.mp inTime).1 .saved mem rfl r rfl
    exact congrArg History.uploads (disk_noteAll rest atOnce unsaved _)

end Copies
end CodeGloss
