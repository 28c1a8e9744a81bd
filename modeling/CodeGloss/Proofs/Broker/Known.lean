import CodeGloss.Proofs.Broker.Origin
import CodeGloss.Proofs.Broker.Progress

/-!
# What a broker knows

The texts that a broker knows are those that the service has told it in the current epoch, and
nothing else: the answers that were taken, entered in the order in which they were taken, each by
what it answers.  A list brings in all its annotations, one after the other; a text goes in under
the key that it was asked for; a failure, an answer about more detail and an answer to an inquiry of
an earlier epoch bring in nothing (`Books.credit`).

It does not matter when the answers came in, whose ticket was shown, or which fetch was the faster
one.  Nor does it matter that a file may be taken for the loaded one by the first demand for it: in
an epoch in which no file is loaded nothing has been asked.
-/

namespace CodeGloss

open Service (Answer Inquiry)

namespace Ledger

/-- **What is known is what was told.**  In every run the known texts are the replay of the receipts
in the current epoch.  A receipt is for an answer that has come in to an inquiry on the log.  The
inquiry of one that counts was made for a demand of the run, and about the file that is loaded.  And
an answer that has come in does not stay without a receipt: whoever shows the ticket of the fetch
that waits for it has it taken. -/
theorem known_eq_replay (events : List Event) :
    (run events).books.broker.entries =
        (run events).books.receipts.foldl
          (Books.credit (run events).books.slips (run events).books.broker.epoch) [] ∧
      (run events).books.slips.map Slip.inquiry = (run events).books.broker.calls ∧
      (∀ receipt ∈ (run events).books.receipts,
        .answer receipt.1 receipt.2 ∈ events ∧
        ∃ slip, (run events).books.slips[receipt.1]? = some slip ∧
          ∀ key, slip.key = some key → slip.epoch = (run events).books.broker.epoch →
            ∃ d fileId, .demand (.gloss d fileId) ∈ events ∧ d.glossKey = key ∧
              (slip.inquiry = .list fileId ∨ slip.inquiry = .generate fileId d.text) ∧
              (run events).books.broker.fileId = some fileId) ∧
      ∀ (m n epoch call : Nat) (e : Errand) (f : Fetch) (inquiry : Inquiry) (a : Answer),
        (run events).errands[m]? = some e → e.state = .waiting → e.ticket = .fetch n epoch →
        (run events).books.broker.fetches[n]? = some f → f.awaited? = some (call, inquiry) →
        (run events).answers.lookup call = some a →
        (call, a) ∈ (run (events ++ [.attend m])).books.receipts := by
  have h := sound_run events
  refine ⟨h.books.entries_eq, h.books.logged,
    fun receipt mem => ⟨h.receipts receipt mem, ?_⟩, ?_⟩
  swap
  · intro m n epoch call e f inquiry a there waiting ticket here awaited came
    rw [books_attend_of_fetch there waiting ticket]
    exact Books.mem_receipts_poll here awaited (answer?_of_lookup here awaited came)
  have here := List.getElem?_eq_getElem (h.books.receipt_lt receipt mem)
  refine ⟨_, here, fun key keyed current => ?_⟩
  have member := List.mem_of_getElem? here
  obtain ⟨d, fileId, demanded, named, asked⟩ := (from_run events).slip _ member key keyed
  obtain ⟨-, about⟩ := h.books.slip_file _ member (by rw [keyed]; rfl) current
  refine ⟨d, fileId, demanded, named, asked, ?_⟩
  rw [← about]
  rcases asked with asked | asked <;> rw [asked] <;> rfl

/-- A text that has come in for a definition is taken when its ticket is shown, and is known then. -/
theorem known_eq_replay_after_generation :
    let d : Definition :=
      { kind := .function, name := "a", firstLine := 1, lastLine := 1, text := "def a(): ..." }
    let events : List Event :=
      [.switchFile (some "f"), .demand (.gloss d "f"), .answer 0 (.glosses [⟨"b", "t"⟩]),
        .attend 0, .answer 1 (.text "u")]
    (1, .text "u") ∈ (run (events ++ [.attend 0])).books.receipts ∧
      (run (events ++ [.attend 0])).books.broker.entries =
        (run (events ++ [.attend 0])).books.receipts.foldl
          (Books.credit (run (events ++ [.attend 0])).books.slips
            (run (events ++ [.attend 0])).books.broker.epoch) [] ∧
      Table.get? (run (events ++ [.attend 0])).books.broker.entries d.glossKey = some "u" := by
  intro d events
  have replayed := (known_eq_replay (events ++ [.attend 0])).1
  have takes := (known_eq_replay events).2.2.2 0 0 1 1
    { demand := .gloss d "f", start := 1, ticket := .fetch 0 1 }
    { key := d.glossKey, code := d.text, fileId := "f", epoch := 1, stage := .generating 1 }
    (.generate "f" d.text) (.text "u") (by decide) rfl rfl (by decide) rfl
    (by decide)
  exact ⟨takes, replayed, by decide⟩

end Ledger
end CodeGloss
