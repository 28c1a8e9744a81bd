import CodeGloss.Service.Failure

/-!
# Resolutions

What becomes of a demand for an annotation: a text, with where it came from, or nothing because the
file was replaced in the meantime.
-/

namespace CodeGloss

/-- What becomes of a demand. -/
inductive Resolution where
  /-- The text was known already. -/
  | cached (text : String)
  /-- The text was among those that the service had. -/
  | listed (text : String)
  /-- The text was made for the demand. -/
  | generated (text : String)
  /-- The file was replaced while the demand was waiting. -/
  | stale
deriving DecidableEq, Repr, Inhabited

namespace Resolution

/-- The text, if there is one. -/
def text? : Resolution → Option String
  | cached text => some text
  | listed text => some text
  | generated text => some text
  | stale => none

/-- Whether the file was replaced. -/
def isStale : Resolution → Bool
  | stale => true
  | _ => false

@[simp] theorem text?_eq_none_iff (r : Resolution) : r.text? = none ↔ r.isStale = true := by
  cases r <;> simp [text?, isStale]

/-- A resolution, or why there is none. -/
abbrev Outcome := Except Service.Failure Resolution

end Resolution
end CodeGloss
