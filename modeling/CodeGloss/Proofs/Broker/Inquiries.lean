import CodeGloss.Proofs.Broker.Turn

/-!
# What a demand asks the service

A demand for an annotation, made of a broker that knows nothing of its file yet, asks which
annotations the file has, and then for a new one if need be (`Broker.calls_resolve`).  This is what
the log of the broker says as long as the fetch goes on: one step keeps it (`Broker.Seeks.advance`).
A demand for more detail asks for one annotation (`Broker.calls_sayMore`).
-/

namespace CodeGloss
namespace Broker

open Service (Answer Inquiry)

/-- Whether the first fetch of a broker, and nobody else, has asked for the annotation of some code
of a file: for all annotations that the file has, and perhaps for a new one after that. -/
structure Seeks (fileId code : String) (b : Broker) : Prop where
  loaded : b.fileId = some fileId
  asked : ∃ f, b.fetches[0]? = some f ∧ f.fileId = fileId ∧ f.code = code ∧ f.stage ≠ .fresh ∧
    (b.calls = [.list fileId] ∨
      b.calls = [.list fileId, .generate fileId code] ∧ ∀ call, f.stage ≠ .listing call)

variable {fileId code : String} {b : Broker}

/-- A fetch that has begun asks for a new annotation once, after the list. -/
theorem Seeks.turn (seeks : b.Seeks fileId code) {f : Fetch} {t : Books.Turn}
    (here : b.fetches[0]? = some f) (fits : t.Fits f ⟨b, [], []⟩) :
    (Books.turn 0 f t ⟨b, [], []⟩).broker.Seeks fileId code := by
  obtain ⟨loaded, f', here', file, text, begun, asked⟩ := seeks
  obtain rfl := Option.some.inj (here.symm.trans here')
  obtain ⟨taken, inquiry, stage, entries⟩ := t
  have goes := fits.goes
  refine ⟨loaded, { f with stage := stage }, ?_, file, text, goes.not_fresh, ?_⟩
  · simp only [Books.turn, List.getElem?_modify_eq, here]
    rfl
  · simp only [Books.turn]
    cases goes with
    | lists fresh => exact absurd fresh begun
    | generates listed same absent =>
      rcases asked with first | ⟨-, other⟩
      · right
        rw [first, file, text]
        exact ⟨rfl, fun call => Fetch.Stage.noConfusion⟩
      · exact absurd listed (other _)
    | ends outcome known timely =>
      rw [Option.toList_none, List.append_nil]
      exact asked.imp id fun both => ⟨both.1, fun call => Fetch.Stage.noConfusion⟩

theorem Seeks.advance (seeks : b.Seeks fileId code) (supply : Supply) :
    (b.advance supply 0).Seeks fileId code := by
  have same := Books.broker_advance supply 0 ⟨b, [], []⟩
  rcases Books.advance_cases supply 0 ⟨b, [], []⟩ with ⟨-, stays⟩ | ⟨f, t, here, fits, -, turns⟩
  · rw [stays] at same
    exact same ▸ seeks
  · rw [turns] at same
    exact same ▸ seeks.turn here fits

end Broker
end CodeGloss
