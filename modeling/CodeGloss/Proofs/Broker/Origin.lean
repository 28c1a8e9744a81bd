import CodeGloss.Proofs.Broker.LedgerSound

/-!
# Where inquiries come from

Every fetch was opened by a demand for an annotation, and every inquiry with a key was made by a
fetch: so it lists the annotations of a file that was demanded, or asks for one of the demanded
definition (`Books.From`).  The slips of the books say the truth about who asked.
-/

namespace CodeGloss

open Service (Answer Inquiry)

namespace Books

/-- Whether all fetches and their inquiries are for demands among the given ones. -/
structure From (demanded : Definition → String → Prop) (k : Books) : Prop where
  fetch : ∀ {n : Nat} {f : Fetch}, k.broker.fetches[n]? = some f →
    ∃ d, demanded d f.fileId ∧ d.glossKey = f.key ∧ d.text = f.code
  slip : ∀ s ∈ k.slips, ∀ key, s.key = some key → ∃ d fileId, demanded d fileId ∧
    d.glossKey = key ∧ (s.inquiry = .list fileId ∨ s.inquiry = .generate fileId d.text)

namespace From

variable {demanded : Definition → String → Prop} {k : Books}

theorem mono (h : k.From demanded) {more : Definition → String → Prop}
    (le : ∀ d fileId, demanded d fileId → more d fileId) : k.From more where
  fetch there := by
    obtain ⟨d, is_demanded, rest⟩ := h.fetch there
    exact ⟨d, le _ _ is_demanded, rest⟩
  slip s mem key keyed := by
    obtain ⟨d, fileId, is_demanded, rest⟩ := h.slip s mem key keyed
    exact ⟨d, fileId, le _ _ is_demanded, rest⟩

/-- What a turn asks is for the demand of the fetch. -/
theorem turn (h : k.From demanded) {n : Nat} {f : Fetch} {t : Turn}
    (here : k.broker.fetches[n]? = some f) (fits : t.Fits f k) : (k.turn n f t).From demanded where
  fetch there := by
    rcases fetch_turn_cases here there with ⟨rfl, rfl⟩ | ⟨-, old⟩
    · obtain ⟨d, origin⟩ := h.fetch here
      exact ⟨d, origin⟩
    · exact h.fetch old
  slip s mem key keyed := by
    obtain ⟨call, there⟩ := List.getElem?_of_mem mem
    rcases slip_turn_cases there with old | ⟨inquiry, asked, -, rfl⟩
    · exact h.slip s (List.mem_of_getElem? old) key keyed
    · cases keyed
      obtain ⟨d, is_demanded, key, code⟩ := h.fetch here
      have goes := fits.goes
      rw [asked] at goes
      exact ⟨d, f.fileId, is_demanded, key, code ▸ goes.asked_eq⟩

theorem advance (h : k.From demanded) (supply : Supply) (n : Nat) :
    (k.advance supply n).From demanded := by
  rcases advance_cases supply n k with ⟨-, same⟩ | ⟨f, t, here, fits, -, eq⟩
  · rw [same]
    exact h
  · rw [eq]
    exact h.turn here fits

theorem present (h : k.From demanded) (supply : Supply) (ticket : Ticket) :
    (k.present supply ticket).1.From demanded := by
  cases ticket with
  | ready outcome => exact h
  | fetch n epoch => exact ((h.advance supply n).advance supply n).advance supply n
  | call n epoch => exact ⟨h.fetch, h.slip⟩

theorem openFetch (h : k.From demanded) {d : Definition} {fileId : String}
    (is_demanded : demanded d fileId) :
    ({ k with broker := k.broker.openFetch d fileId } : Books).From demanded where
  fetch there := by
    rcases fetch_open_cases there with old | ⟨-, rfl⟩
    · exact h.fetch old
    · exact ⟨d, is_demanded, rfl, rfl⟩
  slip := h.slip

/-- An inquiry without a key is for nobody. -/
theorem enter (h : k.From demanded) {b : Broker} (fetches : b.fetches = k.broker.fetches) :
    (k.enter none b).From demanded := by
  refine ⟨fun there => h.fetch (fetches ▸ there), fun s mem key keyed => ?_⟩
  rcases List.mem_append.mp mem with old | new
  · exact h.slip s old key keyed
  · obtain ⟨inquiry, -, rfl⟩ := List.mem_map.mp new
    cases keyed

/-- A demand for an annotation may open a fetch; one for more detail makes an inquiry without a
key. -/
theorem demand (h : k.From demanded) {x : Demand}
    (is_demanded : ∀ d fileId, x = .gloss d fileId → demanded d fileId) :
    (k.demand x).1.From demanded := by
  cases x with
  | gloss d fileId =>
    rcases Broker.resolve_cases d fileId k.broker with ⟨-, eq⟩ | ⟨-, ⟨text, -, eq⟩ |
      ⟨-, n, -, eq⟩ | ⟨-, -, eq⟩⟩
    · simp only [Books.demand, Books.resolve, eq]
      exact h
    · simp only [Books.demand, Books.resolve, eq]
      exact ⟨h.fetch, h.slip⟩
    · simp only [Books.demand, Books.resolve, eq]
      exact ⟨h.fetch, h.slip⟩
    · simp only [Books.demand, Books.resolve, eq]
      exact openFetch (k := { k with broker := k.broker.load fileId }) ⟨h.fetch, h.slip⟩
        (is_demanded d fileId rfl)
  | detail d fileId current =>
    refine h.enter ?_
    unfold Broker.sayMore
    split <;> rfl

/-- An answer that gave a text was one to an inquiry of a fetch, and either the inquiry was for all
annotations of the file and there is one of that name, or it was for the text of a definition of the
file that was demanded and has that key. -/
theorem of_gave (h : k.From demanded) (sound : k.Sound) {fileId key text : String}
    (gave : k.Gave fileId key text) :
    ∃ receipt ∈ k.receipts, ∃ slip, k.slips[receipt.1]? = some slip ∧
      k.broker.calls[receipt.1]? = some slip.inquiry ∧ slip.key.isSome ∧
      ((slip.inquiry = .list fileId ∧
          ∃ glosses, receipt.2.toGlosses = .ok glosses ∧ ⟨key, text⟩ ∈ glosses) ∨
        (slip.key = some key ∧ receipt.2.toText = .ok text ∧
          ∃ d, demanded d fileId ∧ d.glossKey = key ∧
            slip.inquiry = .generate fileId d.text)) := by
  obtain ⟨receipt, mem, slip, here, keyed, about, tells⟩ := gave
  refine ⟨receipt, mem, slip, here, ?_, keyed, ?_⟩
  · rw [← sound.logged, List.getElem?_map, here, Option.map_some]
  · rcases tells with ⟨file, glosses, asked, said, told⟩ | ⟨file, code, asked, own, said⟩
    · rw [asked] at about
      cases about
      exact Or.inl ⟨asked, glosses, said, told⟩
    · rw [asked] at about
      cases about
      obtain ⟨d, file, is_demanded, named, for_⟩ :=
        h.slip slip (List.mem_of_getElem? here) key own
      refine Or.inr ⟨own, said, d, ?_⟩
      rcases for_ with for_ | for_
      · rw [asked] at for_
        cases for_
      · rw [asked] at for_
        cases for_
        exact ⟨is_demanded, named, asked⟩

end From
end Books

namespace Ledger

/-- **Every inquiry with a key is for a demand of the run.** -/
theorem from_run (events : List Event) :
    (run events).books.From fun d fileId => .demand (.gloss d fileId) ∈ events := by
  induction events using List.reverseRecOn with
  | nil => exact ⟨by simp [run], by simp [run]⟩
  | append_singleton events event ih =>
    have older : (run events).books.From fun d fileId =>
        .demand (.gloss d fileId) ∈ events ++ [event] :=
      ih.mono fun d fileId => List.mem_append_left _
    rw [run_snoc]
    rcases (run events).books_step_cases event with ⟨fileId, -, eq⟩ | ⟨x, rfl, eq⟩ |
      ⟨-, -, ticket, eq⟩
    · rw [eq]
      exact ⟨older.fetch, older.slip⟩
    · rw [eq]
      refine (older.demand ?_).present _ _
      rintro d fileId rfl
      simp
    · rw [eq]
      exact older.present _ _

end Ledger
end CodeGloss
