/-!
# TOML values

What a TOML text says, as far as settings need it: texts, whole numbers, lists and tables.  Of other
values it only matters that they are there.

A table remembers how it came about, as this decides how it may still grow.  A table that was only
passed through on the way to another may be given a header once; one made by dotted keys grows by
dotted keys only; one that had its header, or stands in braces, is closed to both.
-/

namespace CodeGloss
namespace Toml

/-- How a table came about. -/
inductive Form where
  /-- A header led through it. -/
  | passed
  /-- It has a header of its own. -/
  | headed
  /-- Dotted keys led through it. -/
  | dotted
  /-- It stands in braces. -/
  | braced
deriving DecidableEq, Repr

/-- A TOML value. -/
inductive Value where
  /-- A text. -/
  | text (value : String)
  /-- A whole number. -/
  | integer (value : Int)
  /-- A date, a time of day, or both. -/
  | moment
  /-- Any other value that is neither a list nor a table. -/
  | scalar
  /-- A list in brackets. -/
  | array (items : List Value)
  /-- A table. -/
  | table (form : Form) (entries : List (String × Value))
  /-- The tables under one repeated header. -/
  | tables (items : List Value)
deriving Inhabited

/-- The entries of a table. -/
abbrev Entries := List (String × Value)

namespace Value

/-- Entries with the value under `key` changed or added by `change`, which may refuse. -/
def update (key : String) (change : Option Value → Option Value) : Entries → Option Entries
  | [] => (change none).map fun v => [(key, v)]
  | e :: es =>
    if e.1 == key then (change (some e.2)).map fun v => (key, v) :: es
    else (update key change es).map (e :: ·)

/-- The last item of a list changed by `change`, which may refuse. -/
def updateLast (change : Value → Option Value) (items : List Value) : Option (List Value) :=
  match items.reverse with
  | [] => none
  | last :: before => (change last).map fun v => (v :: before).reverse

/-- Changes the table that the names of a header lead to.  Tables on the way are made where they are
missing, and of repeated tables the last one is meant. -/
def atHeader (change : Entries → Option Entries) : List String → Entries → Option Entries
  | [], entries => change entries
  | name :: names, entries =>
    update name
      (fun
        | none => (atHeader change names []).map (table .passed)
        | some (.table .braced _) => none
        | some (.table form below) => (atHeader change names below).map (table form)
        | some (.tables items) =>
          (updateLast
            (fun
              | .table form below => (atHeader change names below).map (table form)
              | _ => none)
            items).map tables
        | some _ => none)
      entries

/-- Opens the table of a header. -/
def openTable (names : List String) (key : String) (root : Entries) : Option Entries :=
  atHeader
    (update key fun
      | none => some (table .headed [])
      | some (.table .passed below) => some (table .headed below)
      | some _ => none)
    names root

/-- Opens the next table of a repeated header. -/
def openTables (names : List String) (key : String) (root : Entries) : Option Entries :=
  atHeader
    (update key fun
      | none => some (tables [table .headed []])
      | some (.tables items) => some (tables (items ++ [table .headed []]))
      | some _ => none)
    names root

/-- Puts a value under a dotted key.  `open` says whether the table at hand may take the value
itself: the first one always may, and those on the way if they were made by dotted keys. -/
def insertDotted (key : String) (v : Value) (isOpen : Bool) :
    List String → Entries → Option Entries
  | [], entries =>
    if isOpen then
      update key (fun
        | none => some v
        | some _ => none) entries
    else none
  | name :: names, entries =>
    update name
      (fun
        | none => (insertDotted key v true names []).map (table .dotted)
        | some (.table .dotted below) => (insertDotted key v true names below).map (table .dotted)
        | some (.table .passed below) => (insertDotted key v false names below).map (table .passed)
        | some (.tables items) =>
          (updateLast
            (fun
              | .table form below => (insertDotted key v false names below).map (table form)
              | _ => none)
            items).map tables
        | some _ => none)
      entries

end Value
end Toml
end CodeGloss
