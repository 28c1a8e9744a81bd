import CodeGloss.Proofs.Broker.Origin

/-!
# Nothing crosses a change of files

A demand may wait while files come and go, its fetch may have been opened by somebody else, and the
answers may come in any order or not at all.  Whoever gets a text in the end gets one that the
service has told for the file of the demand, and no file was replaced since the demand was made; and
whoever has waited while a file was replaced gets no text and no failure, but is told so.

The reason is in the ticket.  It is for the epoch of the demand, and so is its fetch, whoever has
opened it (`Books.Issued.shared`).  While the epoch lasts, the fetches of the epoch are about the
loaded file, and what they end with was told by an answer about that file (`Books.Sound`).
-/

namespace CodeGloss

open Service (Answer Inquiry)

namespace Ledger

/-- Whether the service has told a text for a key of a file.  It has if an answer came in to an
inquiry that was made for an annotation, and either the inquiry was for all annotations of the file
and there is one of that name, or it was for the text of a definition of the file that was demanded
and has that key. -/
def Told (events : List Event) (fileId key text : String) : Prop :=
  ∃ call a slip, Event.answer call a ∈ events ∧
    (run events).books.slips[call]? = some slip ∧
    (run events).books.broker.calls[call]? = some slip.inquiry ∧ slip.key.isSome ∧
    ((slip.inquiry = .list fileId ∧ ∃ glosses, a.toGlosses = .ok glosses ∧ ⟨key, text⟩ ∈ glosses) ∨
      (slip.key = some key ∧ a.toText = .ok text ∧
        ∃ d, .demand (.gloss d fileId) ∈ events ∧ d.glossKey = key ∧
          slip.inquiry = .generate fileId d.text))

section

variable {events : List Event} {fileId key text : String}

theorem told_of_gave (gave : (run events).books.Gave fileId key text) :
    Told events fileId key text := by
  have h := sound_run events
  obtain ⟨⟨call, a⟩, mem, slip, here, logged, keyed, tells⟩ := (from_run events).of_gave h.books gave
  exact ⟨call, a, slip, h.receipts _ mem, here, logged, keyed, tells⟩

/-- What is known of the loaded file was told for it. -/
theorem told_of_known (loaded : (run events).books.broker.fileId = some fileId)
    (known : Table.get? (run events).books.broker.entries key = some text) :
    Told events fileId key text := by
  have h := (sound_run events).books
  rw [h.entries_eq] at known
  exact told_of_gave (Books.gave_of_known h.slip_file loaded known)

/-- What a fetch ends with was told for its file. -/
theorem told_of_outcome {n : Nat} {f : Fetch}
    (here : (run events).books.broker.fetches[n]? = some f) {r : Resolution}
    (ended : (run events).books.broker.outcome? n = some (.ok r))
    (said : r.text? = some text) : Told events f.fileId f.key text :=
  told_of_gave ((sound_run events).books.outcome here (Books.stage_of_outcome? here ended) said)

end

/-- **Nothing crosses a change of files.**  Let the annotation of a definition of a file be demanded
in any run, and let the demand be served.  If it gets a text, no file was replaced in between, the
loaded file is that of the demand, and the service has told the text for it.  If a file was replaced
in between, be it by itself, the demand is told so, whatever its fetch has come to. -/
theorem no_outcome_crosses_files (events : List Event) {e : Errand}
    (mem : e ∈ (run events).errands) {d : Definition} {fileId : String}
    (demanded : e.demand = .gloss d fileId) {time : Nat} {outcome : Resolution.Outcome}
    (served : e.state = .served time outcome) :
    events[e.start]? = some (.demand (.gloss d fileId)) ∧ e.start ≤ time ∧ time < events.length ∧
      (∀ (r : Resolution) (text : String), outcome = .ok r → r.text? = some text →
        ¬Switched events e.start time ∧
          (run (events.take (time + 1))).books.broker.fileId = some fileId ∧
          Told (events.take (time + 1)) fileId d.glossKey text) ∧
      (Switched events e.start time → outcome = .ok .stale) := by
  have h := (sound_run events).errands e mem
  obtain ⟨le, lt, yields⟩ := h.served served
  refine ⟨by rw [h.made, demanded], le, lt, ?_⟩
  have issued := h.issued
  rw [demanded] at issued
  cases ticket : e.ticket with
  | ready o =>
    -- The outcome was there at once, so there is no in between.
    have state := h.ready ticket
    rw [served] at state
    cases state
    have still : ¬Switched events e.start e.start := by
      rw [switched_iff_epoch events le]
      exact fun apart => apart rfl
    refine ⟨?_, fun switched => absurd switched still⟩
    rintro r text rfl said
    rw [ticket] at issued
    cases issued with
    | elsewhere apart => cases said
    | known loaded known =>
      cases said
      exact ⟨still, loaded, told_of_known loaded known⟩
  | fetch n epoch =>
    obtain ⟨o, ended, kept, stale⟩ := served_of_fetch h ticket served
    refine ⟨?_, stale⟩
    rintro r text rfl said
    have still : ¬Switched events e.start time := by
      intro switched
      have := stale switched
      cases this
      cases said
    refine ⟨still, ?_⟩
    rw [← kept still] at ended
    rw [ticket] at issued
    obtain ⟨f, here, key, file, made⟩ := issued.fetch
    obtain ⟨f', here', key', file', epoch', -⟩ :=
      (grows_run events (Nat.succ_le_succ le)).fetch here
    have current : f'.epoch = (run (events.take (time + 1))).books.broker.epoch := by
      rw [switched_iff_epoch events le, not_not] at still
      rw [epoch', made, issued.epoch_eq, still]
    have loaded := (sound_run (events.take (time + 1))).books.fetch_file here' current
    rw [file', file] at loaded
    refine ⟨loaded, ?_⟩
    have told := told_of_outcome here' ended said
    rwa [file', file, key', key] at told
  | call n epoch =>
    rw [ticket] at issued
    cases issued

/-- In this run a file is loaded, a definition of it is demanded, and the service has an annotation
of the name. -/
theorem no_outcome_crosses_files_listed :
    let d : Definition :=
      { kind := .function, name := "a", firstLine := 1, lastLine := 1, text := "" }
    let events : List Event :=
      [.switchFile (some "f"), .demand (.gloss d "f"), .answer 0 (.glosses [⟨"a", "t"⟩]), .attend 0]
    let e : Errand :=
      { demand := .gloss d "f"
        start := 1
        ticket := .fetch 0 1
        state := .served 3 (.ok (.listed "t")) }
    e ∈ (run events).errands ∧ ¬Switched events e.start 3 ∧
      (run (events.take (3 + 1))).books.broker.fileId = some "f" ∧
      Told (events.take (3 + 1)) "f" d.glossKey "t" := by
  intro d events e
  have here : (run events).errands[0]? = some e := by decide
  have mem := List.mem_of_getElem? here
  obtain ⟨-, -, -, text, -⟩ := no_outcome_crosses_files events mem rfl rfl
  exact ⟨mem, text (.listed "t") "t" rfl rfl⟩

end Ledger
end CodeGloss
