import CodeGloss.Proofs.Broker.SoundTurn

/-!
# The operations keep the books sound

What is left besides the steps of fetches: another file is loaded, the annotation of a definition is
demanded, more detail is demanded, and an answer about detail is taken.

A demand for an annotation has four outcomes (`Broker.resolve_cases`): the file is not the loaded
one; the text is known; a fetch for its key is under way; or a fetch is opened (`Broker.openFetch`).
In the last three the file is the loaded one from then on (`Broker.load`).
-/

namespace CodeGloss

open Service (Answer Inquiry)

/-! ## What a demand for an annotation does -/

namespace Broker

/-- Takes a file for the loaded one. -/
def load (fileId : String) (b : Broker) : Broker :=
  { b with fileId := some fileId }

/-- Opens a fetch, which is under way from then on. -/
def openFetch (d : Definition) (fileId : String) (b : Broker) : Broker :=
  { b with
    fetches := b.fetches ++ [{ key := d.glossKey, code := d.text, fileId, epoch := b.epoch }]
    inFlight := Table.insert d.glossKey b.fetches.length b.inFlight }

/-- Everything that a demand for an annotation can do. -/
theorem resolve_cases (d : Definition) (fileId : String) (b : Broker) :
    (b.isElsewhere fileId = true ∧ b.resolve d fileId = (b, .ready (.ok .stale))) ∨
    b.isElsewhere fileId = false ∧
      ((∃ text, b.get? d = some text ∧
          b.resolve d fileId = (b.load fileId, .ready (.ok (.cached text)))) ∨
        (b.get? d = none ∧ ∃ n, Table.get? b.inFlight d.glossKey = some n ∧
          b.resolve d fileId = (b.load fileId, .fetch n b.epoch)) ∨
        (b.get? d = none ∧ Table.get? b.inFlight d.glossKey = none ∧
          b.resolve d fileId =
            ((b.load fileId).openFetch d fileId, .fetch b.fetches.length b.epoch))) := by
  cases elsewhere : b.isElsewhere fileId with
  | true =>
    left
    simp only [resolve, elsewhere, if_true, and_self]
  | false =>
    right
    refine ⟨rfl, ?_⟩
    cases known : b.get? d with
    | some text =>
      left
      refine ⟨text, rfl, ?_⟩
      have known' : (b.load fileId).get? d = some text := known
      simp only [load] at known'
      simp [resolve, elsewhere, known', load]
    | none =>
      right
      have known' : (b.load fileId).get? d = none := known
      simp only [load] at known'
      cases going : Table.get? b.inFlight d.glossKey with
      | some n =>
        left
        refine ⟨rfl, n, rfl, ?_⟩
        simp [resolve, elsewhere, known', going, load]
      | none =>
        right
        refine ⟨rfl, rfl, ?_⟩
        simp [resolve, elsewhere, known', going, load, openFetch]

/-- A file is loaded, or none, and it is no other one. -/
theorem isElsewhere_eq_false_iff {b : Broker} {fileId : String} :
    b.isElsewhere fileId = false ↔ b.fileId = none ∨ b.fileId = some fileId := by
  unfold isElsewhere
  cases b.fileId with
  | none => simp
  | some loaded => simp

end Broker

namespace Books

section Operations

variable {k : Books} (h : k.Sound)
include h

/-! ## Files -/

/-- A file may be replaced once every fetch has made its first step. -/
theorem Sound.switchFile (settled : k.Settled) (fileId : Option String) :
    (k.switchFile fileId).Sound where
  logged := h.logged
  slip_epoch s mem := Nat.le_succ_of_le (h.slip_epoch s mem)
  slip_file s mem _ current := by
    have := h.slip_epoch s mem
    have : s.epoch = k.broker.epoch + 1 := current
    omega
  receipt_lt := h.receipt_lt
  fetch_epoch there := Nat.le_succ_of_le (h.fetch_epoch there)
  fetch_file there current := by
    have := h.fetch_epoch there
    have : _ = k.broker.epoch + 1 := current
    omega
  under_way key n := by
    constructor
    · intro found
      exact absurd found (by simp [Books.switchFile, Broker.switchFile])
    · rintro ⟨f, there, -, current, -⟩
      have := h.fetch_epoch there
      have : f.epoch = k.broker.epoch + 1 := current
      omega
  fresh_epoch there fresh := absurd fresh (settled _ _ there)
  awaits := h.awaits
  awaits_inj := h.awaits_inj
  outstanding := h.outstanding
  entries_eq := by
    have earlier : ∀ s ∈ k.slips, s.epoch < k.broker.epoch + 1 := fun s mem =>
      Nat.lt_succ_of_le (h.slip_epoch s mem)
    exact (replay_of_lt earlier).symm
  outcome := h.outcome

/-- While no file is loaded there is nothing of the current epoch, so any may be. -/
theorem Sound.load {fileId : String} (here : k.broker.isElsewhere fileId = false) :
    ({ k with broker := k.broker.load fileId } : Books).Sound := by
  rcases Broker.isElsewhere_eq_false_iff.mp here with none_ | same
  · exact {
      logged := h.logged
      slip_epoch := h.slip_epoch
      slip_file := fun s mem keyed current => by
        obtain ⟨about, eq⟩ := h.slip_file s mem keyed current
        rw [eq, none_] at about
        cases about
      receipt_lt := h.receipt_lt
      fetch_epoch := h.fetch_epoch
      fetch_file := fun there current => by
        have loaded := h.fetch_file there current
        rw [none_] at loaded
        cases loaded
      under_way := h.under_way
      fresh_epoch := h.fresh_epoch
      awaits := h.awaits
      awaits_inj := h.awaits_inj
      outstanding := h.outstanding
      entries_eq := h.entries_eq
      outcome := h.outcome }
  · have eq : k.broker.load fileId = k.broker := by
      rw [Broker.load, ← same]
    rw [eq]
    exact h

/-! ## Demands for annotations -/

omit h in
/-- The fetches after one was opened: the new one, and the others as they were. -/
theorem fetch_open_cases {d : Definition} {fileId : String} {m : Nat} {g : Fetch}
    (there : (k.broker.openFetch d fileId).fetches[m]? = some g) :
    k.broker.fetches[m]? = some g ∨ (m = k.broker.fetches.length ∧
      g = { key := d.glossKey, code := d.text, fileId, epoch := k.broker.epoch }) := by
  simp only [Broker.openFetch] at there
  by_cases old : m < k.broker.fetches.length
  · rw [List.getElem?_append_left old] at there
    exact Or.inl there
  · rw [List.getElem?_append_right (by omega)] at there
    obtain ⟨lt, eq⟩ := List.getElem?_eq_some_iff.mp there
    rw [List.length_singleton] at lt
    exact Or.inr ⟨by omega, by rw [← eq, List.getElem_singleton]⟩

omit h in
theorem fetch_open_of_fetch {d : Definition} {fileId : String} {m : Nat} {g : Fetch}
    (there : k.broker.fetches[m]? = some g) :
    (k.broker.openFetch d fileId).fetches[m]? = some g := by
  simp only [Broker.openFetch]
  rw [List.getElem?_append_left (List.getElem?_eq_some_iff.mp there).1, there]

/-- A fetch may be opened for a key that none is under way for. -/
theorem Sound.openFetch {d : Definition} {fileId : String}
    (loaded : k.broker.fileId = some fileId)
    (free : Table.get? k.broker.inFlight d.glossKey = none) :
    ({ k with broker := k.broker.openFetch d fileId } : Books).Sound where
  logged := h.logged
  slip_epoch := h.slip_epoch
  slip_file := h.slip_file
  receipt_lt := h.receipt_lt
  fetch_epoch there := by
    rcases fetch_open_cases there with old | ⟨-, rfl⟩
    · exact h.fetch_epoch old
    · exact Nat.le_refl _
  fetch_file there current := by
    rcases fetch_open_cases there with old | ⟨-, rfl⟩
    · exact h.fetch_file old current
    · exact loaded
  under_way key n := by
    show Table.get? (Table.insert d.glossKey k.broker.fetches.length k.broker.inFlight) key =
      some n ↔ _
    rw [Table.get?_insert]
    by_cases own : key = d.glossKey
    · rw [if_pos own]
      constructor
      · intro new
        cases new
        refine ⟨_, List.getElem?_concat_length, own.symm, rfl, rfl⟩
      · rintro ⟨g, there, owns, current, open_⟩
        rcases fetch_open_cases there with old | ⟨rfl, -⟩
        · have found := (h.under_way key n).mpr ⟨g, old, owns, current, open_⟩
          rw [own, free] at found
          cases found
        · rfl
    · rw [if_neg own, h.under_way key n]
      constructor
      · rintro ⟨g, old, rest⟩
        exact ⟨g, fetch_open_of_fetch old, rest⟩
      · rintro ⟨g, there, owns, rest⟩
        rcases fetch_open_cases there with old | ⟨-, rfl⟩
        · exact ⟨g, old, owns, rest⟩
        · exact absurd owns.symm own
  fresh_epoch there fresh := by
    rcases fetch_open_cases there with old | ⟨-, rfl⟩
    · exact h.fresh_epoch old fresh
    · rfl
  awaits there awaited := by
    rcases fetch_open_cases there with old | ⟨-, rfl⟩
    · exact h.awaits old awaited
    · cases awaited
  awaits_inj there there' awaited awaited' := by
    rcases fetch_open_cases there with old | ⟨-, rfl⟩
    · rcases fetch_open_cases there' with old' | ⟨-, rfl⟩
      · exact h.awaits_inj old old' awaited awaited'
      · cases awaited'
    · cases awaited
  outstanding slip keyed not_taken := by
    obtain ⟨n, f, there, rest⟩ := h.outstanding slip keyed not_taken
    exact ⟨n, f, fetch_open_of_fetch there, rest⟩
  entries_eq := h.entries_eq
  outcome there ended told := by
    rcases fetch_open_cases there with old | ⟨-, rfl⟩
    · exact h.outcome old ended told
    · cases ended

theorem Sound.resolve (d : Definition) (fileId : String) : (k.resolve d fileId).1.Sound := by
  rcases Broker.resolve_cases d fileId k.broker with ⟨-, eq⟩ | ⟨here, ⟨text, -, eq⟩ |
    ⟨-, n, -, eq⟩ | ⟨-, free, eq⟩⟩
  · rw [Books.resolve, eq]
    exact h
  · rw [Books.resolve, eq]
    exact h.load here
  · rw [Books.resolve, eq]
    exact h.load here
  · rw [Books.resolve, eq]
    exact (h.load here).openFetch rfl free

/-! ## Demands for more detail -/

/-- An inquiry that is made for no key leaves everything but the log as it is. -/
theorem Sound.issue (inquiry : Inquiry) : (k.enter none (k.broker.issue inquiry)).Sound := by
  have slips : (k.enter none (k.broker.issue inquiry)).slips =
      k.slips ++ [⟨inquiry, none, k.broker.epoch⟩] := by
    simp only [enter, Broker.issue, List.drop_left, List.map_cons, List.map_nil]
  have kept : ∀ {call : Nat} {s : Slip}, k.slips[call]? = some s →
      (k.enter none (k.broker.issue inquiry)).slips[call]? = some s := by
    intro call s there
    rw [slips, List.getElem?_append_left (List.getElem?_eq_some_iff.mp there).1, there]
  have keyed_old : ∀ {call : Nat} {s : Slip} {key : String}, s.key = some key →
      (k.enter none (k.broker.issue inquiry)).slips[call]? = some s → k.slips[call]? = some s := by
    intro call s key keyed there
    rw [slips] at there
    by_cases old : call < k.slips.length
    · rwa [List.getElem?_append_left old] at there
    · rw [List.getElem?_append_right (by omega)] at there
      have new := List.mem_singleton.mp (List.mem_of_getElem? there)
      rw [new] at keyed
      cases keyed
  exact {
    logged := by
      rw [slips, List.map_append, h.logged]
      rfl
    slip_epoch := by
      intro s mem
      rw [slips, List.mem_append, List.mem_singleton] at mem
      rcases mem with old | rfl
      · exact h.slip_epoch s old
      · exact Nat.le_refl _
    slip_file := by
      intro s mem keyed current
      rw [slips, List.mem_append, List.mem_singleton] at mem
      rcases mem with old | rfl
      · exact h.slip_file s old keyed current
      · cases keyed
    receipt_lt := by
      intro r mem
      rw [slips, List.length_append]
      exact Nat.lt_add_right _ (h.receipt_lt r mem)
    fetch_epoch := h.fetch_epoch
    fetch_file := h.fetch_file
    under_way := h.under_way
    fresh_epoch := h.fresh_epoch
    awaits := fun there awaited =>
      ⟨kept (h.awaits there awaited).1, (h.awaits there awaited).2⟩
    awaits_inj := h.awaits_inj
    outstanding := fun there keyed not_taken =>
      h.outstanding (keyed_old keyed there) keyed not_taken
    entries_eq := by
      rw [replay, slips]
      exact h.entries_eq.trans (replay_append h.receipt_lt _).symm
    outcome := fun there ended told => by
      obtain ⟨r, mem, slip, slip_eq, rest⟩ := h.outcome there ended told
      exact ⟨r, mem, slip, kept slip_eq, rest⟩ }

theorem Sound.sayMore (d : Definition) (fileId current : String) :
    (k.sayMore d fileId current).1.Sound := by
  unfold Books.sayMore Broker.sayMore
  by_cases elsewhere : k.broker.isElsewhere fileId
  · have same : k.enter none k.broker = k := by
      simp only [enter, List.drop_length, List.map_nil, List.append_nil]
    rw [if_pos elsewhere, same]
    exact h
  · rw [if_neg elsewhere]
    exact h.issue _

/-- An answer to an inquiry that was made for no key adds nothing to what is known. -/
theorem Sound.receive {call : Nat} {s : Slip} (there : k.slips[call]? = some s)
    (no_key : s.key = none) (supply : Supply) :
    ({ k with receipts := k.receipts ++ k.receive supply call } : Books).Sound := by
  have received : ∀ r ∈ k.receive supply call, r.1 = call := by
    intro r mem
    rw [Books.receive, Option.mem_toList] at mem
    obtain ⟨a, -, rfl⟩ := Option.map_eq_some_iff.mp mem
    rfl
  exact {
    logged := h.logged
    slip_epoch := h.slip_epoch
    slip_file := h.slip_file
    receipt_lt := by
      intro r mem
      rcases List.mem_append.mp mem with old | new
      · exact h.receipt_lt r old
      · rw [received r new]
        exact (List.getElem?_eq_some_iff.mp there).1
    fetch_epoch := h.fetch_epoch
    fetch_file := h.fetch_file
    under_way := h.under_way
    fresh_epoch := h.fresh_epoch
    awaits := fun fetch awaited => by
      obtain ⟨slip, not_taken⟩ := h.awaits fetch awaited
      refine ⟨slip, ?_⟩
      rw [List.map_append, List.mem_append, not_or]
      refine ⟨not_taken, fun new => ?_⟩
      obtain ⟨r, mem, rfl⟩ := List.mem_map.mp new
      rw [received r mem, there, Option.some.injEq] at slip
      rw [slip] at no_key
      cases no_key
    awaits_inj := h.awaits_inj
    outstanding := fun slip keyed not_taken => by
      rw [List.map_append, List.mem_append, not_or] at not_taken
      exact h.outstanding slip keyed not_taken.1
    entries_eq := by
      have nothing : ∀ t : Table String, ∀ r ∈ k.receive supply call,
          credit k.slips k.broker.epoch t r = t := by
        intro t r mem
        refine credit_of_no_key (s := s) ?_ no_key
        rw [received r mem, there]
      show k.broker.entries =
        (k.receipts ++ k.receive supply call).foldl (credit k.slips k.broker.epoch) []
      rw [List.foldl_append, List.foldl_ext _ (fun t _ => t) _ nothing, List.foldl_fixed]
      exact h.entries_eq
    outcome := fun fetch ended told => by
      obtain ⟨r, mem, rest⟩ := h.outcome fetch ended told
      exact ⟨r, List.mem_append_left _ mem, rest⟩ }

end Operations
end Books
end CodeGloss
