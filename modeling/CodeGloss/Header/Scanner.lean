import CodeGloss.Text.Lines
import CodeGloss.Text.Word

/-!
# Scanning header lines

The small steps from which header rules are read.  A step reads something at the start of what is
left of a line and answers what is left after it.  It reads as much as it can, and no later step undoes
it, apart from those that say so.  So a scanner reads a line in one way, where the pattern of its rule
may read it in several.
-/

namespace CodeGloss
namespace Header
namespace Scanner

/-! ## Fixed text -/

/-- What follows the literal text `word`. -/
def after? (word : String) (s : List Char) : Option (List Char) :=
  if word.toList.isPrefixOf s then some (s.drop word.length) else none

/-- What follows the first `c`. -/
def afterFirst? (c : Char) (s : List Char) : Option (List Char) :=
  match s.dropWhile (· != c) with
  | [] => none
  | _ :: rest => some rest

/-- What follows at least one blank. -/
def afterBlanks? (s : List Char) : Option (List Char) :=
  match s with
  | [] => none
  | c :: rest => if Text.isBlank c then some (Text.trimStart rest) else none

/-- What follows `word` and the blanks that set it off. -/
def afterWord? (word : String) (s : List Char) : Option (List Char) :=
  (after? word s).bind afterBlanks?

/-- What follows `word` and its blanks where they stand, and everything otherwise. -/
def skipWord (word : String) (s : List Char) : List Char :=
  (afterWord? word s).getD s

/-- Skips each of `words` in turn, where it stands. -/
def skipWords (words : List String) (s : List Char) : List Char :=
  words.foldl (fun s word => skipWord word s) s

/-- Whether no word character comes next. -/
def atWordEnd : List Char → Bool
  | [] => true
  | c :: _ => !Text.isWord c

/-- Whether `word` comes next and ends there. -/
def startsWord (word : String) (s : List Char) : Bool :=
  match after? word s with
  | some rest => atWordEnd rest
  | none => false

/-- What follows the group that `open` starts and the first `close` ends; everything if no group
starts here, and nothing if it does not end. -/
def skipGroup? (opening closing : Char) (s : List Char) : Option (List Char) :=
  match s with
  | [] => some []
  | c :: rest => if c == opening then afterFirst? closing rest else some s

/-! ## Names -/

/-- The first character of a plain name. -/
def isNameStart (c : Char) : Bool :=
  Text.isLetter c || c == '_'

/-- The first character of a name that may hold dollar signs. -/
def isScriptStart (c : Char) : Bool :=
  isNameStart c || c == '$'

/-- A later character of a name that may hold dollar signs. -/
def isScriptChar (c : Char) : Bool :=
  Text.isWord c || c == '$'

/-- A name with its first character from one class and the others from another, and what follows
the longest such name. -/
def name? (first other : Char → Bool) (s : List Char) : Option (List Char × List Char) :=
  match s with
  | [] => none
  | c :: rest =>
    if first c then some (c :: rest.takeWhile other, rest.dropWhile other) else none

/-- A plain name: an ASCII letter or `_`, then word characters. -/
def plainName? : List Char → Option (List Char × List Char) :=
  name? isNameStart Text.isWord

/-- A name that may hold dollar signs. -/
def scriptName? : List Char → Option (List Char × List Char) :=
  name? isScriptStart isScriptChar

/-! ## Modifiers -/

/-- What follows one of the `words` and its blanks. -/
def afterAnyWord? (words : List String) (s : List Char) : Option (List Char) :=
  words.findSome? (afterWord? · s)

theorem length_lt_of_afterBlanks? {s t : List Char} (h : afterBlanks? s = some t) :
    t.length < s.length := by
  match s with
  | [] => simp [afterBlanks?] at h
  | c :: rest =>
    simp only [afterBlanks?] at h
    split at h
    · have := (List.dropWhile_sublist Text.isBlank (l := rest)).length_le
      cases h
      simp only [Text.trimStart, List.length_cons]
      omega
    · simp at h

theorem length_lt_of_afterAnyWord? {words : List String} {s t : List Char}
    (h : afterAnyWord? words s = some t) : t.length < s.length := by
  obtain ⟨w, -, hw⟩ := List.exists_of_findSome?_eq_some h
  simp only [afterWord?, after?] at hw
  split at hw
  · have := length_lt_of_afterBlanks? (Option.bind_some .. ▸ hw)
    simp only [List.length_drop] at this
    omega
  · simp at hw

/-- What is left of a line after each possible number of leading modifiers, the most first.  A
modifier may also be the name or the type that follows the modifiers, so a rule has to be ready to
take fewer than there are. -/
def afterModifiers (words : List String) (s : List Char) (fewer : List (List Char)) :
    List (List Char) :=
  match _h : afterAnyWord? words s with
  | some rest => afterModifiers words rest (s :: fewer)
  | none => s :: fewer
termination_by s.length
decreasing_by exact length_lt_of_afterAnyWord? _h

end Scanner
end Header
end CodeGloss
