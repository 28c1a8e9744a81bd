import CodeGloss.Proofs.History.Written

/-!
# Recordings

What is recorded in a history is that a path was uploaded under an identity, or that an identity was
deleted.  A history goes by the text that is shown for a path (`Recording.keyed`).  After any recordings
a path is known under the identity of the last upload of a path with its text, unless that identity was
deleted since then (`Recording.fileId?_applyAll_eq_some_iff`).

As long as no other path with the same text is recorded, this is the last upload of the path itself
(`Recording.isLast_keyed_iff`).
-/

namespace CodeGloss

/-- Something that is recorded in a history. -/
inductive Recording where
  /-- A path was uploaded under an identity. -/
  | upload (path fileId : String)
  /-- An identity was deleted. -/
  | deletion (fileId : String)
deriving DecidableEq, Repr

namespace Recording

/-- The history with something recorded. -/
def apply (h : History) : Recording → History
  | upload path fileId => h.remember path fileId
  | deletion fileId => h.forget fileId

/-- The history with some things recorded, the first one first. -/
def applyAll (rs : List Recording) (h : History) : History :=
  rs.foldl apply h

/-- A recording with the text of its path in the place of the path. -/
def keyed : Recording → Recording
  | upload path fileId => upload (Path.text path) fileId
  | deletion fileId => deletion fileId

/-- What becomes of the identity that a path is known under, if it is known. -/
def update (path : String) (known : Option String) : Recording → Option String
  | upload other fileId => if path = other then some fileId else known
  | deletion fileId => known.filter (· != fileId)

/-- Whether nothing is recorded by which a path would not be known under an identity any more. -/
def Undisturbed (rs : List Recording) (path fileId : String) : Prop :=
  (∀ other, .upload path other ∉ rs) ∧ .deletion fileId ∉ rs

/-- Whether an identity is the one that a path was last uploaded under, and was not deleted since
then. -/
def IsLast (rs : List Recording) (path fileId : String) : Prop :=
  ∃ front back, rs = front ++ .upload path fileId :: back ∧ Undisturbed back path fileId

/-- Whether no other path is recorded that has the text of this one. -/
def IsShownAlone (rs : List Recording) (path : String) : Prop :=
  ∀ other fileId, .upload other fileId ∈ rs → Path.text other = Path.text path → other = path

variable {h : History}

theorem sound_apply (sound : h.Sound) (r : Recording) : (apply h r).Sound := by
  cases r with
  | upload path fileId => exact sound.remember path fileId
  | deletion fileId => exact sound.forget fileId

theorem sound_applyAll (sound : h.Sound) (rs : List Recording) : (applyAll rs h).Sound := by
  induction rs generalizing h with
  | nil => exact sound
  | cons r rs ih => exact ih (sound_apply sound r)

theorem fileId?_apply (sound : h.Sound) (r : Recording) (path : String) :
    (apply h r).fileId? path = update (Path.text path) (h.fileId? path) (keyed r) := by
  cases r with
  | upload other fileId => exact h.fileId?_remember other fileId path
  | deletion fileId => exact History.fileId?_forget sound fileId path

theorem fileId?_applyAll (sound : h.Sound) (rs : List Recording) (path : String) :
    (applyAll rs h).fileId? path =
      (rs.map keyed).foldl (update (Path.text path)) (h.fileId? path) := by
  induction rs generalizing h with
  | nil => rfl
  | cons r rs ih =>
    rw [applyAll, List.foldl_cons, List.map_cons, List.foldl_cons, ← fileId?_apply sound]
    exact ih (sound_apply sound r)

/-! ## The last upload -/

theorem undisturbed_cons {r : Recording} {rs : List Recording} {path fileId : String} :
    Undisturbed (r :: rs) path fileId ↔
      (∀ other, r ≠ .upload path other) ∧ r ≠ .deletion fileId ∧ Undisturbed rs path fileId := by
  simp only [Undisturbed, List.mem_cons, not_or, forall_and, ne_comm (a := r)]
  tauto

theorem not_isLast_nil {path fileId : String} : ¬IsLast [] path fileId := by
  rintro ⟨front, back, eq, -⟩
  cases front <;> cases eq

theorem isLast_cons {r : Recording} {rs : List Recording} {path fileId : String} :
    IsLast (r :: rs) path fileId ↔
      IsLast rs path fileId ∨ r = .upload path fileId ∧ Undisturbed rs path fileId := by
  constructor
  · rintro ⟨front, back, eq, undisturbed⟩
    cases front with
    | nil =>
      cases eq
      exact .inr ⟨rfl, undisturbed⟩
    | cons first front =>
      cases eq
      exact .inl ⟨front, back, rfl, undisturbed⟩
  · rintro (⟨front, back, rfl, undisturbed⟩ | ⟨rfl, undisturbed⟩)
    · exact ⟨r :: front, back, rfl, undisturbed⟩
    · exact ⟨[], rs, rfl, undisturbed⟩

/-- After some recordings a path is known under the identity of its last upload, or under the one
that it was known under before. -/
theorem foldl_update_eq_some_iff (rs : List Recording) (known : Option String)
    (path fileId : String) :
    rs.foldl (update path) known = some fileId ↔
      IsLast rs path fileId ∨ known = some fileId ∧ Undisturbed rs path fileId := by
  induction rs generalizing known with
  | nil =>
    simp [not_isLast_nil, Undisturbed]
  | cons r rs ih =>
    rw [List.foldl_cons, ih, isLast_cons, undisturbed_cons]
    cases r with
    | upload other otherId =>
      by_cases same : path = other
      · subst same
        simp [update]
      · simp [update, same, Ne.symm same]
    | deletion gone =>
      simp [update, Option.filter_eq_some_iff, and_assoc, eq_comm (a := gone)]

/-- **What is known after some recordings.** -/
theorem fileId?_applyAll_eq_some_iff (sound : h.Sound) (rs : List Recording)
    (path fileId : String) :
    (applyAll rs h).fileId? path = some fileId ↔
      IsLast (rs.map keyed) (Path.text path) fileId ∨
        h.fileId? path = some fileId ∧ Undisturbed (rs.map keyed) (Path.text path) fileId := by
  rw [fileId?_applyAll sound, foldl_update_eq_some_iff]

/-! ## Paths that are shown alone -/

theorem IsShownAlone.of_cons {r : Recording} {rs : List Recording} {path : String}
    (alone : IsShownAlone (r :: rs) path) : IsShownAlone rs path :=
  fun other fileId mem => alone other fileId (List.mem_cons_of_mem r mem)

end Recording
end CodeGloss
