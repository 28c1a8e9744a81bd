/-!
# Search

The first place where a text occurs in another one, and the sizes of texts in UTF-8.
-/

namespace CodeGloss
namespace Text

/-- The number of bytes of a text. -/
def byteLength : List Char → Nat
  | [] => 0
  | c :: s => c.utf8Size + byteLength s

/-- What stands before the first occurrence of a text. -/
def before? (needle : List Char) : List Char → Option (List Char)
  | [] => if needle.isEmpty then some [] else none
  | c :: rest =>
    if needle.isPrefixOf (c :: rest) then some []
    else (before? needle rest).map (c :: ·)

/-- Whether a text occurs in another one. -/
def occurs (needle s : List Char) : Bool :=
  (before? needle s).isSome

/-- The bytes that the first occurrence of a text takes up, from the first one to the one after the
last one. -/
def byteRange? (needle s : List Char) : Option (Nat × Nat) :=
  (before? needle s).map fun before =>
    (byteLength before, byteLength before + byteLength needle)

@[simp] theorem byteLength_nil : byteLength [] = 0 :=
  rfl

@[simp] theorem byteLength_append (s t : List Char) :
    byteLength (s ++ t) = byteLength s + byteLength t := by
  induction s with
  | nil => simp
  | cons c s ih => simp [byteLength, ih, Nat.add_assoc]

end Text
end CodeGloss
