/-!
# JSON values

What a JSON text says.  Two things are kept that a reader of values seldom needs, because the texts
themselves are of interest here: an object is a list of members, so a repeated key shows, and a
string whose escapes name half of a surrogate pair is a string without a text.  Numbers written with
digits alone are natural numbers; of any other number only the spelling is kept.
-/

namespace CodeGloss
namespace Json

/-- A JSON value. -/
inductive Value where
  /-- The value `null`. -/
  | null
  /-- A truth value. -/
  | bool (value : Bool)
  /-- A number written with digits alone. -/
  | natural (value : Nat)
  /-- Any other number, as it is written. -/
  | otherNumber (spelling : String)
  /-- A string, and its text unless it holds half of a surrogate pair. -/
  | string (text : Option String)
  /-- A list of values. -/
  | array (items : List Value)
  /-- A list of members, each a key and a value. -/
  | object (members : List (Option String × Value))
deriving Inhabited

namespace Value

/-- The text of a string that has one. -/
def text? : Value → Option String
  | string text => text
  | _ => none

/-- A natural number below `limit`. -/
def naturalBelow? (limit : Nat) : Value → Option Nat
  | natural n => if n < limit then some n else none
  | _ => none

/-- A list of values. -/
def items? : Value → Option (List Value)
  | array items => some items
  | _ => none

/-- Reads `null` as absence, and any other value with `read`. -/
def optional? (read : Value → Option α) : Value → Option (Option α)
  | null => some none
  | v => (read v).map some

/-! ## Records

A record is an object or a list of its fields in order.  An object may have members of other names,
whatever they hold, but none of the record's own names twice, and every key needs a text.  A list
may leave out fields at its end, down to a shortest length.
-/

/-- The value of the only member called `name`; `none` where there are several, and no value where
there is none. -/
def member? (name : String) (members : List (Option String × Value)) : Option (Option Value) :=
  match members.filter fun m => m.1 == some name with
  | [] => some none
  | [m] => some (some m.2)
  | _ => none

/-- The values of a record's fields, in the order of `names`.  As a list the record has at least
`shortest` fields. -/
def fields? (names : List String) (shortest : Nat) : Value → Option (List (Option Value))
  | object members =>
    if members.any fun m => m.1.isNone then none
    else names.mapM fun name => member? name members
  | array items =>
    if shortest ≤ items.length && items.length ≤ names.length then
      some (items.map some ++ List.replicate (names.length - items.length) none)
    else none
  | _ => none

end Value
end Json
end CodeGloss
