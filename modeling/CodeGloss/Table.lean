/-!
# Tables

Values under text keys.  A table is a list of keys and values in the order of the keys, each key
once, so that equal contents are equal lists.  Insertion keeps to that order: a new key goes where
it belongs, and a key that is there gets the new value.
-/

namespace CodeGloss

/-- Values under keys, in the order of the keys. -/
abbrev Table (α : Type) := List (String × α)

namespace Table

variable {α : Type}

/-- The table with a value under a key, in place of the one that was there. -/
def insert (key : String) (value : α) : Table α → Table α
  | [] => [(key, value)]
  | entry :: rest =>
    if key == entry.1 then (key, value) :: rest
    else if key < entry.1 then (key, value) :: entry :: rest
    else entry :: insert key value rest

/-- The value under a key. -/
def get? (t : Table α) (key : String) : Option α :=
  t.lookup key

/-- The table without a key. -/
def erase (t : Table α) (key : String) : Table α :=
  t.filter fun entry => entry.1 != key

@[simp] theorem get?_nil (key : String) : get? ([] : Table α) key = none :=
  rfl

theorem get?_cons (entry : String × α) (t : Table α) (key : String) :
    get? (entry :: t) key = if key = entry.1 then some entry.2 else get? t key := by
  obtain ⟨k, v⟩ := entry
  by_cases h : key = k
  · simp [get?, h]
  · have apart : (key == k) = false := by simpa using h
    simp [get?, List.lookup_cons, apart, h]

theorem get?_insert (t : Table α) (key other : String) (value : α) :
    get? (insert key value t) other = if other = key then some value else get? t other := by
  induction t with
  | nil => simp [insert, get?_cons]
  | cons entry rest ih =>
    by_cases same : key = entry.1
    · by_cases h : other = entry.1 <;> simp [insert, get?_cons, same, h]
    · by_cases before : key < entry.1
      · simp [insert, get?_cons, same, before]
      · by_cases h : other = entry.1
        · have apart : ¬other = key := fun eq => same (eq ▸ h)
          simp [insert, get?_cons, same, before, h, Ne.symm same]
        · simp [insert, get?_cons, same, before, h, ih]

theorem get?_erase (t : Table α) (key other : String) :
    get? (erase t key) other = if other = key then none else get? t other := by
  induction t with
  | nil => simp [erase]
  | cons entry rest ih =>
    unfold erase at ih ⊢
    by_cases same : entry.1 = key <;> by_cases h : other = key <;> grind [get?_cons]

end Table
end CodeGloss
