import CodeGloss.Proofs.Broker.Books

/-!
# Turns of a fetch

A step of a fetch takes one of nine ways, by the stage of the fetch, by the answer that is at hand
and by the epoch.  Either it does nothing, because the fetch is over or the answer that it waits for
is not there, or it moves the fetch to another stage.  A move has one form, whichever the stages are
(`Books.turn`): an answer may be taken, the known texts may change by it, and an inquiry may be
made, or else the fetch ends and is no longer under way.

Everything that a step can do is said by `Books.advance_cases`.  Nothing later looks into a step.
-/

namespace CodeGloss

open Service (Answer Inquiry)

namespace Books

/-- What a step makes of a fetch and of the known texts. -/
structure Turn where
  /-- The answer that was taken, with the number of its inquiry. -/
  taken : Option (Nat × Answer)
  /-- The inquiry that was made. -/
  asked : Option Inquiry
  /-- How far the fetch has come. -/
  stage : Fetch.Stage
  /-- The known texts. -/
  entries : Table String

/-- The books after a turn of the fetch `f`, whose number is `n`. -/
def turn (n : Nat) (f : Fetch) (t : Turn) (k : Books) : Books where
  broker :=
    { k.broker with
      entries := t.entries
      inFlight :=
        if t.stage.isOver = true ∧ k.broker.epoch = f.epoch then
          Table.erase k.broker.inFlight f.key
        else k.broker.inFlight
      fetches := k.broker.fetches.modify n fun f => { f with stage := t.stage }
      calls := k.broker.calls ++ t.asked.toList }
  slips := k.slips ++ t.asked.toList.map (⟨·, some f.key, k.broker.epoch⟩)
  receipts := k.receipts ++ t.taken.toList

/-- The known texts after a fetch has taken an answer.  They change in its own epoch only. -/
def credited (f : Fetch) (inquiry : Inquiry) (answer : Answer) (k : Books) : Table String :=
  if k.broker.epoch = f.epoch then inquiry.credit f.key answer k.broker.entries
  else k.broker.entries

/-- The answer that a fetch may take, and the known texts after it. -/
inductive Turn.Takes (f : Fetch) (k : Books) : Option (Nat × Answer) → Table String → Prop where
  | nothing (fresh : f.stage = .fresh) : Takes f k none k.broker.entries
  | answer {call : Nat} {inquiry : Inquiry} (awaited : f.awaited? = some (call, inquiry))
      (a : Answer) : Takes f k (some (call, a)) (k.credited f inquiry a)

/-- Where a fetch may go when the known texts are `entries`, and what it asks on the way.  It ends
with a text only in its own epoch, and then that text is the known one.  In its own epoch it does not
find its file replaced. -/
inductive Turn.Goes (f : Fetch) (k : Books) (entries : Table String) :
    Option Inquiry → Fetch.Stage → Prop where
  | lists (fresh : f.stage = .fresh) :
      Goes f k entries (some (.list f.fileId)) (.listing k.broker.nextCall)
  | generates {call : Nat} (listed : f.stage = .listing call) (same : k.broker.epoch = f.epoch)
      (absent : Table.get? entries f.key = none) :
      Goes f k entries (some (.generate f.fileId f.code)) (.generating k.broker.nextCall)
  | ends (outcome : Resolution.Outcome)
      (known : ∀ r text, outcome = .ok r → r.text? = some text →
        k.broker.epoch = f.epoch ∧ Table.get? entries f.key = some text)
      (timely : k.broker.epoch = f.epoch → outcome ≠ .ok .stale) :
      Goes f k entries none (.finished outcome)

/-- Whether a turn is one that the fetch `f` may take. -/
structure Turn.Fits (t : Turn) (f : Fetch) (k : Books) : Prop where
  takes : Turn.Takes f k t.taken t.entries
  goes : Turn.Goes f k t.entries t.asked t.stage

section Fits

variable {f : Fetch} {k : Books}

/-- The answer that is taken is the one that the fetch waits for. -/
theorem Turn.Takes.call_eq {taken : Option (Nat × Answer)} {entries : Table String}
    (takes : Turn.Takes f k taken entries) :
    taken.map Prod.fst = f.awaited?.map Prod.fst := by
  cases takes with
  | nothing fresh => simp only [Fetch.awaited?, fresh, Option.map_none]
  | answer awaited a => rw [awaited]; rfl

/-- A fetch that makes a turn is not over. -/
theorem Turn.Takes.going {taken : Option (Nat × Answer)} {entries : Table String}
    (takes : Turn.Takes f k taken entries) : f.stage.isOver = false := by
  cases takes with
  | nothing fresh =>
    rw [fresh]
    rfl
  | answer awaited a => exact Fetch.going_of_awaited? awaited

/-- A turn leads out of the first stage, -/
theorem Turn.Goes.not_fresh {entries : Table String} {asked : Option Inquiry} {stage : Fetch.Stage}
    (goes : Turn.Goes f k entries asked stage) : stage ≠ .fresh := by
  cases goes <;> simp

/-- and waits then for the inquiry that it made. -/
theorem Turn.Goes.awaited {entries : Table String} {asked : Option Inquiry} {stage : Fetch.Stage}
    (goes : Turn.Goes f k entries asked stage) :
    ({ f with stage } : Fetch).awaited? = asked.map (k.broker.nextCall, ·) := by
  cases goes <;> rfl

/-- A fetch asks about its file. -/
theorem Turn.Goes.asked_eq {entries : Table String} {inquiry : Inquiry} {stage : Fetch.Stage}
    (goes : Turn.Goes f k entries (some inquiry) stage) :
    inquiry = .list f.fileId ∨ inquiry = .generate f.fileId f.code := by
  cases goes with
  | lists fresh => exact Or.inl rfl
  | generates listed same absent => exact Or.inr rfl

end Fits

/-! ## A step is nothing or a turn -/

section
variable {supply : Supply} {n : Nat} {k : Books} {f : Fetch}

theorem broker_turn_finish (taken : Option (Nat × Answer)) (outcome : Resolution.Outcome)
    (entries : Table String) :
    (k.turn n f ⟨taken, none, .finished outcome, entries⟩).broker =
      ({ k.broker with entries } : Broker).finish n f outcome := by
  unfold Broker.finish turn
  by_cases same : k.broker.epoch = f.epoch
  · simp [same, Fetch.Stage.isOver, Broker.moveFetch]
  · simp [same, Fetch.Stage.isOver, Broker.moveFetch]

theorem broker_turn_ask (taken : Option (Nat × Answer)) (inquiry : Inquiry)
    {stage : Nat → Fetch.Stage} (going : (stage k.broker.nextCall).isOver = false)
    (entries : Table String) :
    (k.turn n f ⟨taken, some inquiry, stage k.broker.nextCall, entries⟩).broker =
      ({ k.broker with entries } : Broker).ask n inquiry stage := by
  unfold turn
  rw [going, if_neg (by simp)]
  rfl

/-- The books follow from what becomes of the broker and from the answer that is taken. -/
theorem advance_eq_turn (here : k.broker.fetches[n]? = some f) (t : Turn)
    (broker : k.broker.advance supply n = (k.turn n f t).broker)
    (taken : (f.awaited?.map fun a => k.receive supply a.1).getD [] = t.taken.toList) :
    k.advance supply n = k.turn n f t := by
  unfold advance
  rw [here]
  simp only [enter, broker, taken]
  simp only [turn, List.drop_left]

/-- A list leads to the end of the search or to the question for a new annotation. -/
theorem takeList_cases {call : Nat} (listed : f.stage = .listing call)
    (taken : Option (Nat × Answer)) (glosses : List Service.Gloss) {a : Answer}
    (said : a.toGlosses = .ok glosses) :
    ∃ asked stage,
      Turn.Goes f k (k.credited f (.list f.fileId) a) asked stage ∧
      k.broker.takeList n f glosses =
        (k.turn n f ⟨taken, asked, stage, k.credited f (.list f.fileId) a⟩).broker := by
  by_cases same : k.broker.epoch = f.epoch
  · have entries : k.credited f (.list f.fileId) a = (k.broker.adopt glosses).entries := by
      simp only [credited, if_pos same, Inquiry.credit, said, Broker.adopt]
    rw [entries]
    simp only [Broker.takeList, if_pos same]
    cases known : Table.get? (k.broker.adopt glosses).entries f.key with
    | none =>
      refine ⟨_, _, .generates listed same known, ?_⟩
      rw [broker_turn_ask _ _ rfl]
      rfl
    | some text =>
      refine ⟨_, _, .ends (.ok (.listed text)) ?_ (fun _ => by simp), ?_⟩
      · rintro r t ⟨⟩ ⟨⟩
        exact ⟨same, known⟩
      · rw [broker_turn_finish]
        rfl
  · refine ⟨_, _, .ends (.ok .stale) ?_ (absurd · same), ?_⟩
    · rintro r t ⟨⟩ told
      exact absurd told (by simp [Resolution.text?])
    · rw [broker_turn_finish, credited, if_neg same, Broker.takeList, if_neg same]

/-- A text ends a search. -/
theorem takeText_cases (taken : Option (Nat × Answer)) (text : String) {a : Answer}
    (said : a.toText = .ok text) :
    ∃ stage,
      Turn.Goes f k (k.credited f (.generate f.fileId f.code) a) none stage ∧
      k.broker.takeText n f text =
        (k.turn n f ⟨taken, none, stage, k.credited f (.generate f.fileId f.code) a⟩).broker := by
  by_cases same : k.broker.epoch = f.epoch
  · have entries : k.credited f (.generate f.fileId f.code) a =
        Table.insert f.key text k.broker.entries := by
      simp only [credited, if_pos same, Inquiry.credit, said]
    refine ⟨_, .ends (.ok (.generated text)) ?_ (fun _ => by simp), ?_⟩
    · rintro r t ⟨⟩ ⟨⟩
      refine ⟨same, ?_⟩
      rw [entries, Table.get?_insert, if_pos rfl]
    · rw [broker_turn_finish, entries, Broker.takeText, if_pos same]
  · refine ⟨_, .ends (.ok .stale) ?_ (absurd · same), ?_⟩
    · rintro r t ⟨⟩ told
      exact absurd told (by simp [Resolution.text?])
    · rw [broker_turn_finish, credited, if_neg same, Broker.takeText, if_neg same]

/-- Whether a fetch has nothing to do: it is over, or the answer that it waits for is not at hand.
-/
def Idle (supply : Supply) (n : Nat) (k : Books) : Prop :=
  ∀ f, k.broker.fetches[n]? = some f → f.stage.isOver = true ∨
    ∃ call inquiry, f.awaited? = some (call, inquiry) ∧ k.broker.answer? supply call = none

/-- Whether a step of a fetch makes a turn that fits, by an answer that is at hand. -/
def Moves (supply : Supply) (n : Nat) (k : Books) : Prop :=
  ∃ f t, k.broker.fetches[n]? = some f ∧ Turn.Fits t f k ∧
    (∀ r, t.taken = some r → k.broker.answer? supply r.1 = some r.2) ∧
    k.advance supply n = k.turn n f t

/-- Where the answer is at hand the step of the broker makes a turn. -/
theorem moves_of_answer (here : k.broker.fetches[n]? = some f) {call : Nat} {inquiry : Inquiry}
    (awaited : f.awaited? = some (call, inquiry)) {a : Answer}
    (given : k.broker.answer? supply call = some a) {asked : Option Inquiry} {stage : Fetch.Stage}
    (goes : Turn.Goes f k (k.credited f inquiry a) asked stage)
    (broker : k.broker.advance supply n =
      (k.turn n f ⟨some (call, a), asked, stage, k.credited f inquiry a⟩).broker) :
    Moves supply n k := by
  refine ⟨f, ⟨_, _, _, _⟩, here, ⟨.answer awaited a, goes⟩, ?_, advance_eq_turn here _ broker ?_⟩
  · rintro r ⟨⟩
    exact given
  · rw [awaited, Option.map_some, Option.getD_some, receive, given]
    rfl

/-- A fetch that waits in vain stays as it is, and with it the books. -/
theorem advance_of_unanswered (here : k.broker.fetches[n]? = some f) {call : Nat}
    {inquiry : Inquiry} (awaited : f.awaited? = some (call, inquiry))
    (missing : k.broker.answer? supply call = none) : k.advance supply n = k := by
  have broker : k.broker.advance supply n = k.broker := by
    simp only [Fetch.awaited?] at awaited
    split at awaited
    next c stage =>
      cases awaited
      simp only [Broker.advance, here, stage, missing, Option.map_none]
    next c stage =>
      cases awaited
      simp only [Broker.advance, here, stage, missing, Option.map_none]
    next => cases awaited
  simp [advance, here, broker, awaited, receive, missing, enter]

end

/-- **Every step of a fetch is nothing or a turn.** -/
theorem advance_cases (supply : Supply) (n : Nat) (k : Books) :
    (Idle supply n k ∧ k.advance supply n = k) ∨ Moves supply n k := by
  cases here : k.broker.fetches[n]? with
  | none =>
    left
    refine ⟨fun f there => absurd (here.symm.trans there) (by simp), ?_⟩
    simp only [advance, here]
  | some f =>
    -- While an answer is missing nothing is done, whichever the inquiry is.
    have waits : ∀ {call : Nat} {inquiry : Inquiry}, f.awaited? = some (call, inquiry) →
        k.broker.answer? supply call = none → Idle supply n k ∧ k.advance supply n = k := by
      intro call inquiry awaited missing
      refine ⟨fun g there => ?_, advance_of_unanswered here awaited missing⟩
      rw [here, Option.some.injEq] at there
      subst there
      exact Or.inr ⟨call, inquiry, awaited, missing⟩
    cases stage : f.stage with
    | fresh =>
      right
      refine ⟨f, ⟨_, _, _, _⟩, here, ⟨.nothing stage, .lists stage⟩, by simp,
        advance_eq_turn here _ ?_ ?_⟩
      · rw [broker_turn_ask _ _ rfl]
        simp only [Broker.advance, here, stage]
      · simp only [Fetch.awaited?, stage]
        rfl
    | listing call =>
      have awaited : f.awaited? = some (call, .list f.fileId) := by
        simp only [Fetch.awaited?, stage]
      cases given : k.broker.answer? supply call with
      | none => exact Or.inl (waits awaited given)
      | some a =>
        right
        cases said : a.toGlosses with
        | error failure =>
          have nothing : k.credited f (.list f.fileId) a = k.broker.entries := by
            simp only [credited, Inquiry.credit, said, ite_self]
          refine moves_of_answer here awaited given (.ends (.error failure) (by simp) (fun _ => by simp)) ?_
          rw [broker_turn_finish, nothing]
          simp only [Broker.advance, here, stage, given, Option.map_some, said]
        | ok glosses =>
          obtain ⟨asked, next, goes, broker⟩ :=
            takeList_cases (n := n) stage (some (call, a)) glosses said
          refine moves_of_answer here awaited given goes ?_
          rw [← broker]
          simp only [Broker.advance, here, stage, given, Option.map_some, said]
    | generating call =>
      have awaited : f.awaited? = some (call, .generate f.fileId f.code) := by
        simp only [Fetch.awaited?, stage]
      cases given : k.broker.answer? supply call with
      | none => exact Or.inl (waits awaited given)
      | some a =>
        right
        cases said : a.toText with
        | error failure =>
          have nothing : k.credited f (.generate f.fileId f.code) a = k.broker.entries := by
            simp only [credited, Inquiry.credit, said, ite_self]
          refine moves_of_answer here awaited given (.ends (.error failure) (by simp) (fun _ => by simp)) ?_
          rw [broker_turn_finish, nothing]
          simp only [Broker.advance, here, stage, given, Option.map_some, said]
        | ok text =>
          obtain ⟨next, goes, broker⟩ := takeText_cases (n := n) (some (call, a)) text said
          refine moves_of_answer here awaited given goes ?_
          rw [← broker]
          simp only [Broker.advance, here, stage, given, Option.map_some, said]
    | finished outcome =>
      left
      refine ⟨fun g there => ?_, ?_⟩
      · rw [here, Option.some.injEq] at there
        subst there
        exact Or.inl (by rw [stage]; rfl)
      · simp [advance, Broker.advance, here, stage, enter, Fetch.awaited?]

/-- A fetch that has nothing to do does nothing. -/
theorem advance_of_idle {supply : Supply} {n : Nat} {k : Books} (idle : Idle supply n k) :
    k.advance supply n = k := by
  rcases advance_cases supply n k with ⟨-, same⟩ | ⟨f, t, here, fits, given, -⟩
  · exact same
  · exfalso
    rcases idle f here with ended | ⟨call, inquiry, awaited, missing⟩
    · rw [fits.takes.going] at ended
      cases ended
    · have taken := fits.takes.call_eq
      rw [awaited] at taken
      obtain ⟨r, is_taken, rfl⟩ := Option.map_eq_some_iff.mp taken
      rw [given r is_taken] at missing
      cases missing

end Books
end CodeGloss
