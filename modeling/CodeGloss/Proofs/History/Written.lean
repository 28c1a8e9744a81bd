import CodeGloss.History
import CodeGloss.Proofs.Json.RoundTrip
import Mathlib.Data.String.Basic

/-!
# A history as text

The uploads of a history are in the order of their paths (`Table.Ordered`), and where the divider
stood is a number of two bytes.  A history that was read is like that, and stays like that whatever
is remembered or forgotten (`History.Sound`).  Its text spells that very history
(`History.read?_write`), since to put entries into a table in their order is to append them.
-/

namespace CodeGloss

/-! ## Tables -/

namespace Table

variable {α : Type} {t : Table α} {key : String} {value : α}

/-- Whether the keys of a table ascend, so that each of them is there once. -/
def Ordered (t : Table α) : Prop :=
  t.Pairwise fun a b => a.1 < b.1

theorem mem_insert {entry : String × α} (mem : entry ∈ insert key value t) :
    entry = (key, value) ∨ entry ∈ t := by
  induction t with
  | nil => exact .inl (List.mem_singleton.mp mem)
  | cons first rest ih =>
    simp only [insert] at mem
    split at mem
    · rcases List.mem_cons.mp mem with eq | mem
      · exact .inl eq
      · exact .inr (List.mem_cons_of_mem _ mem)
    · split at mem
      · exact List.mem_cons.mp mem
      · rcases List.mem_cons.mp mem with rfl | mem
        · exact .inr List.mem_cons_self
        · exact (ih mem).imp_right (List.mem_cons_of_mem _)

/-- A table stays in order when something is inserted. -/
theorem Ordered.insert (ordered : t.Ordered) (key : String) (value : α) :
    (insert key value t).Ordered := by
  induction t with
  | nil => exact List.pairwise_singleton _ _
  | cons first rest ih =>
    obtain ⟨above, ordered⟩ := List.pairwise_cons.mp ordered
    simp only [Table.insert]
    split
    next same =>
      rw [beq_iff_eq] at same
      exact List.pairwise_cons.mpr ⟨fun entry mem => same ▸ above entry mem, ordered⟩
    next other =>
      rw [beq_iff_eq] at other
      split
      next before =>
        refine List.pairwise_cons.mpr ⟨fun entry mem => ?_, List.pairwise_cons.mpr ⟨above, ordered⟩⟩
        rcases List.mem_cons.mp mem with rfl | mem
        · exact before
        · exact lt_trans before (above entry mem)
      next notBefore =>
        refine List.pairwise_cons.mpr ⟨fun entry mem => ?_, ih ordered⟩
        rcases mem_insert mem with rfl | mem
        · exact lt_of_le_of_ne (not_lt.mp notBefore) (Ne.symm other)
        · exact above entry mem

/-- What comes after all entries of a table is appended. -/
theorem insert_of_last (last : ∀ entry ∈ t, entry.1 < key) (value : α) :
    insert key value t = t ++ [(key, value)] := by
  induction t with
  | nil => rfl
  | cons first rest ih =>
    have before := last first List.mem_cons_self
    rw [insert, if_neg (by simpa using ne_of_gt before), if_neg (lt_asymm before),
      ih fun entry mem => last entry (List.mem_cons_of_mem _ mem), List.cons_append]

/-- In an ordered table the entries that are left are found as they were. -/
theorem get?_filter (ordered : t.Ordered) (keep : α → Bool) (key : String) :
    get? (t.filter fun entry => keep entry.2) key = (get? t key).filter keep := by
  induction t with
  | nil => rfl
  | cons first rest ih =>
    obtain ⟨above, ordered⟩ := List.pairwise_cons.mp ordered
    have ih := ih ordered
    rw [get?_cons, List.filter_cons]
    by_cases here : key = first.1
    · subst here
      rw [if_pos rfl, Option.filter_some]
      split
      next => rw [get?_cons, if_pos rfl]
      next =>
        have absent : get? rest first.1 = none := by
          rw [get?, List.lookup_eq_none_iff]
          intro entry mem
          simpa using ne_of_lt (above entry mem)
        rw [ih, absent, Option.filter_none]
    · rw [if_neg here, ← ih]
      split
      · rw [get?_cons, if_neg here]
      · rfl

end Table

namespace History

open Json

variable {h : History}

/-- Whether a history can be written and read back. -/
structure Sound (h : History) : Prop where
  ordered : h.uploads.Ordered
  percent : ∀ n ∈ h.splitPercent, n < percentLimit

theorem sound_empty : Sound {} :=
  ⟨List.Pairwise.nil, nofun⟩

theorem Sound.remember (sound : h.Sound) (path fileId : String) : (h.remember path fileId).Sound :=
  ⟨sound.ordered.insert _ fileId, sound.percent⟩

theorem Sound.forget (sound : h.Sound) (fileId : String) : (h.forget fileId).Sound :=
  ⟨List.Pairwise.filter _ sound.ordered, sound.percent⟩

/-! ## Uploads one by one -/

theorem fileId?_remember (h : History) (path fileId other : String) :
    (h.remember path fileId).fileId? other =
      if Path.text other = Path.text path then some fileId else h.fileId? other :=
  Table.get?_insert _ _ _ _

/-- Every map of texts is that of a history that can be written, with every share of the screen. -/
theorem exists_sound (entries : List (String × String)) {percent : Option Nat}
    (small : ∀ n ∈ percent, n < percentLimit) :
    ∃ h : History, h.Sound ∧ h.splitPercent = percent ∧
      ∀ key, Table.get? h.uploads key = entries.lookup key := by
  induction entries with
  | nil => exact ⟨⟨[], percent⟩, ⟨List.Pairwise.nil, small⟩, rfl, fun key => rfl⟩
  | cons entry entries ih =>
    obtain ⟨h, sound, same, known⟩ := ih
    refine ⟨{ h with uploads := Table.insert entry.1 entry.2 h.uploads },
      ⟨sound.ordered.insert _ _, sound.percent⟩, same, fun key => ?_⟩
    rw [Table.get?_insert, known, ← Table.get?, ← Table.get?, Table.get?_cons]

theorem fileId?_forget (sound : h.Sound) (fileId path : String) :
    (h.forget fileId).fileId? path = (h.fileId? path).filter (· != fileId) :=
  Table.get?_filter sound.ordered (· != fileId) (Path.text path)

theorem forget_of_not_mentions {fileId : String} (silent : h.mentions fileId = false) :
    h.forget fileId = h := by
  have kept : ∀ u ∈ h.uploads, (u.2 != fileId) = true := by
    intro u mem
    have other := List.any_eq_false.mp silent u mem
    simpa using other
  rw [forget, List.filter_eq_self.mpr kept]

/-! ## Reading back -/

/-- The uploads of a history are read one after the other. -/
theorem uploadsOf?_eq {before after : Table String} (ordered : Table.Ordered (before ++ after)) :
    (after.map fun u => (some u.1, Value.string (some u.2))).foldlM
        (fun uploads (m : Option String × Value) => do
          let path ← m.1
          let fileId ← m.2.text?
          some (Table.insert path fileId uploads)) before = some (before ++ after) := by
  induction after generalizing before with
  | nil => simp
  | cons u rest ih =>
    have last : ∀ entry ∈ before, entry.1 < u.1 := fun entry mem =>
      (List.pairwise_append.mp ordered).2.2 entry mem u List.mem_cons_self
    have appended := Table.insert_of_last last u.2
    rw [List.append_cons] at ordered ⊢
    rw [List.map_cons, List.foldlM_cons, ← ih ordered, ← appended]
    rfl

/-- **A history is read back as it was written.** -/
theorem read?_write (sound : h.Sound) : read? h.write = some h := by
  have plain : h.toJson.Plain := by
    refine .object fun m mem => ?_
    rcases List.mem_cons.mp mem with rfl | mem
    · refine .object fun m mem => ?_
      obtain ⟨u, -, rfl⟩ := List.mem_map.mp mem
      exact .string _
    · rw [List.mem_singleton.mp mem]
      dsimp only
      split
      · exact .natural _
      · exact .null
  have uploads : uploadsOf? (.object (h.uploads.map fun u => (some u.1, .string (some u.2)))) =
      some h.uploads :=
    uploadsOf?_eq (show Table.Ordered ([] ++ h.uploads) from sound.ordered)
  rw [read?, write, Json.read?_write plain, Option.bind_some]
  show (uploadsOf? _ >>= fun uploads => _) = _
  rw [uploads]
  obtain ⟨table, _ | n⟩ := h
  · rfl
  · have bound : Value.naturalBelow? percentLimit (.natural n) = some n :=
      if_pos (sound.percent n rfl)
    show ((Value.naturalBelow? percentLimit (.natural n)).map some >>= fun percent => _) = _
    rw [bound]
    rfl

theorem ordered_of_uploadsOf? {v : Value} {uploads : Table String}
    (reads : uploadsOf? v = some uploads) : uploads.Ordered := by
  unfold uploadsOf? at reads
  split at reads
  next members =>
    suffices along : ∀ (members : List (Option String × Value)) {before : Table String},
        before.Ordered → members.foldlM (fun uploads m => do
          let path ← m.1
          let fileId ← m.2.text?
          some (Table.insert path fileId uploads)) before = some uploads → uploads.Ordered from
      along members List.Pairwise.nil reads
    intro members
    induction members with
    | nil =>
      intro before ordered eq
      cases eq
      exact ordered
    | cons m rest ih =>
      intro before ordered eq
      rw [List.foldlM_cons] at eq
      obtain ⟨next, inserted, eq⟩ := Option.bind_eq_some_iff.mp eq
      obtain ⟨path, -, inserted⟩ := Option.bind_eq_some_iff.mp inserted
      obtain ⟨fileId, -, inserted⟩ := Option.bind_eq_some_iff.mp inserted
      cases inserted
      exact ih (ordered.insert path fileId) eq
  next => cases reads

theorem lt_of_optional?_naturalBelow? {limit : Nat} {v : Value} {share : Option Nat}
    (reads : v.optional? (Value.naturalBelow? limit) = some share) : ∀ n ∈ share, n < limit := by
  intro n mem
  unfold Value.optional? at reads
  split at reads
  next =>
    cases reads
    cases mem
  next =>
    obtain ⟨m, below, rfl⟩ := Option.map_eq_some_iff.mp reads
    cases mem
    unfold Value.naturalBelow? at below
    split at below
    next =>
      split at below
      next small =>
        cases below
        exact small
      next => cases below
    next => cases below

/-- A history that was read can be written. -/
theorem sound_of_read? {text : String} (reads : read? text = some h) : h.Sound := by
  obtain ⟨v, -, reads⟩ := Option.bind_eq_some_iff.mp reads
  obtain ⟨fields, -, reads⟩ := Option.bind_eq_some_iff.mp reads
  split at reads
  next uploads percent =>
    obtain ⟨table, uploads_eq, reads⟩ := Option.bind_eq_some_iff.mp reads
    have ordered := ordered_of_uploadsOf? uploads_eq
    cases percent with
    | none =>
      cases reads
      exact ⟨ordered, nofun⟩
    | some p =>
      obtain ⟨share, share_eq, reads⟩ := Option.bind_eq_some_iff.mp reads
      cases reads
      exact ⟨ordered, lt_of_optional?_naturalBelow? share_eq⟩
  next => cases reads

end History
end CodeGloss
