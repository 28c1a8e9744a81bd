import CodeGloss.Text.Blank

/-!
# Times of day on calendar dates

Reads timestamps of the form `2024-05-01T10:00:00.25+02:00`, between whose date and time any single
ASCII character may stand.  Dates are those of the Gregorian calendar from year 0 to 9999, and an
offset from universal time is always given.

Second 60 is a leap second.  It is read as the last nanosecond of the second before it, and only
where a leap second can be: in the last minute, in universal time, of the last day of a month.
-/

namespace CodeGloss
namespace Calendar

/-! ## Dates -/

/-- A date of the Gregorian calendar. -/
structure Date where
  /-- The year. -/
  year : Nat
  /-- The month, from 1. -/
  month : Nat
  /-- The day, from 1. -/
  day : Nat
deriving DecidableEq, Repr

/-- Whether a year has 366 days. -/
def isLeapYear (year : Nat) : Bool :=
  year % 4 == 0 && (year % 100 != 0 || year % 400 == 0)

/-- The number of days of a month. -/
def monthLength (year month : Nat) : Nat :=
  if month == 2 then (if isLeapYear year then 29 else 28)
  else if [4, 6, 9, 11].contains month then 30
  else 31

/-- The number of days from the start of year 0 to the start of a year: every fourth year is a leap
year, less every hundredth, with every four hundredth. -/
def daysBeforeYear (year : Nat) : Nat :=
  365 * year + (year + 3) / 4 - (year + 99) / 100 + (year + 399) / 400

namespace Date

/-- Whether there is such a date. -/
def isValid (d : Date) : Bool :=
  1 ≤ d.month && d.month ≤ 12 && 1 ≤ d.day && d.day ≤ monthLength d.year d.month

/-- The number of days since the start of 1970. -/
def unixDay (d : Date) : Int :=
  let months := (List.range (d.month - 1)).foldr (fun m n => monthLength d.year (m + 1) + n) 0
  (daysBeforeYear d.year + months + (d.day - 1) : Nat) - (daysBeforeYear 1970 : Int)

end Date

/-! ## Timestamps -/

/-- A point in time, as a place with a certain offset writes it. -/
structure Timestamp where
  /-- The local date. -/
  date : Date
  /-- The local hour. -/
  hour : Nat
  /-- The minute. -/
  minute : Nat
  /-- The second, at most 59. -/
  second : Nat
  /-- The nanosecond within the second. -/
  nanosecond : Nat
  /-- How many seconds local time is ahead of universal time. -/
  offset : Int
deriving DecidableEq, Repr

namespace Timestamp

/-- The seconds since the start of 1970 in universal time. -/
def unixSecond (t : Timestamp) : Int :=
  t.date.unixDay * 86400 + ((t.hour * 60 + t.minute) * 60 + t.second : Nat) - t.offset

/-- The nanoseconds since the start of 1970 in universal time. -/
def unixNanosecond (t : Timestamp) : Int :=
  t.unixSecond * 1000000000 + t.nanosecond

/-- Whether the minute is, in universal time, the last one of a month. -/
def endsMonth (t : Timestamp) : Bool :=
  let universal := ((t.hour * 60 + t.minute : Nat) : Int) - t.offset / 60
  let last := monthLength t.date.year t.date.month
  universal % 1440 == 1439 &&
    match universal / 1440 with
    | 0 => t.date.day == last
    | 1 => t.date.day + 1 == last
    | -1 => t.date.day == 1
    | _ => false

end Timestamp

/-! ## Reading -/

/-- The value of a decimal digit. -/
def digit? (c : Char) : Option Nat :=
  if '0' ≤ c && c ≤ '9' then some (c.toNat - '0'.toNat) else none

/-- Reads a number of exactly `count` digits. -/
def number? : Nat → List Char → Option (Nat × List Char)
  | 0, s => some (0, s)
  | count + 1, s => do
    let (c, s) ← s.head?.map (·, s.tail)
    let d ← digit? c
    let (n, s) ← number? count s
    some (d * 10 ^ count + n, s)

/-- Reads the character `c`. -/
def mark? (c : Char) : List Char → Option (List Char)
  | d :: rest => if d == c then some rest else none
  | [] => none

/-- Reads any one ASCII character. -/
def separator? : List Char → Option (List Char)
  | c :: rest => if c.toNat < 128 then some rest else none
  | [] => none

/-- Reads three numbers with a mark between them, the first of `width` digits and the others of
two. -/
def triple? (width : Nat) (mark : Char) (s : List Char) :
    Option (Nat × Nat × Nat × List Char) := do
  let (a, s) ← number? width s
  let (b, s) ← (mark? mark s).bind (number? 2)
  let (c, s) ← (mark? mark s).bind (number? 2)
  some (a, b, c, s)

/-- Reads a fraction of a second, if one starts here, in nanoseconds.  Digits after the ninth are
skipped. -/
def fraction? (s : List Char) : Option (Nat × List Char) :=
  match mark? '.' s with
  | none => some (0, s)
  | some s =>
    let digits := s.takeWhile fun c => (digit? c).isSome
    if digits.isEmpty then none
    else
      let nine := (digits ++ List.replicate 9 '0').take 9
      (number? 9 nine).map fun r => (r.1, s.drop digits.length)

/-- Reads an offset, in seconds, that ends the text. -/
def offset? (s : List Char) : Option Int :=
  match s with
  | ['Z'] => some 0
  | ['z'] => some 0
  | sign :: s => do
    let (hours, s) ← number? 2 s
    let (minutes, s) ← (mark? ':' s).bind (number? 2)
    if !s.isEmpty || hours > 23 || minutes > 59 then none
    else if sign == '+' then some ((hours * 60 + minutes) * 60 : Nat)
    else if sign == '-' then some (-((hours * 60 + minutes) * 60 : Nat))
    else none
  | [] => none

/-- The timestamp that a text spells, blanks around it aside. -/
def read? (text : String) : Option Timestamp := do
  let (year, month, day, s) ← triple? 4 '-' (Text.trim text.toList)
  let s ← separator? s
  let (hour, minute, second, s) ← triple? 2 ':' s
  let (nanosecond, s) ← fraction? s
  let offset ← offset? s
  let date : Date := ⟨year, month, day⟩
  if !date.isValid || hour > 23 || minute > 59 || second > 60 then none
  else if second == 60 then
    let t : Timestamp := ⟨date, hour, minute, 59, 999999999, offset⟩
    if t.endsMonth then some t else none
  else some ⟨date, hour, minute, second, nanosecond, offset⟩

end Calendar
end CodeGloss
