import CodeGloss.Language

/-!
# Usage

How the arguments of a program are written, and how they are read.  A usage lists flags, options with
a value, arguments that are told by their position, and commands with usages of their own.  The
arguments are read from left to right; the first one that names a command hands the rest over to the
usage of that command.

An argument is complete when the next one begins, and only then are its values looked at.  So of
several mistakes the one is reported that comes to light first.
-/

namespace CodeGloss

/-- Why arguments are refused, or why nothing is to be done. -/
inductive Refusal where
  /-- The help was asked for. -/
  | help
  /-- The version was asked for. -/
  | version
  /-- Nothing is given where a command is needed. -/
  | nothingGiven
  /-- Something is given, but not the command that is needed. -/
  | noCommand
  /-- There is no such command. -/
  | unknownCommand
  /-- A required argument is not given. -/
  | missing
  /-- There is no such argument. -/
  | unknown
  /-- An argument has no value, or none of those that it can have. -/
  | noValue
  /-- The value of an argument cannot be read. -/
  | badValue
  /-- A flag is given a value. -/
  | needlessValue
  /-- Arguments do not go together, or one of them is given twice. -/
  | conflict
deriving DecidableEq, Repr

/-- The exit code of a program that is given such arguments. -/
def Refusal.exitCode : Refusal → Nat
  | help => 0
  | version => 0
  | _ => 2

/-- What the values of an argument have to be. -/
inductive ValueKind where
  /-- Any text. -/
  | text
  /-- The path of something. -/
  | path
  /-- The name of a language. -/
  | language
  /-- A number of a line. -/
  | number
  /-- One of some words. -/
  | oneOf (words : List String)
deriving DecidableEq, Repr

namespace ValueKind

/-- The number that a text spells: digits, perhaps after a plus sign, of a number below `2 ^ 64`. -/
def number? (value : String) : Option Nat :=
  let digits := match value.toList with
    | '+' :: rest => rest
    | s => s
  if digits.isEmpty || !digits.all Char.isDigit then none
  else
    let n := digits.foldl (fun n c => n * 10 + (c.toNat - '0'.toNat)) 0
    if n < 0x10000000000000000 then some n else none

/-- What is wrong with a value, if anything is. -/
def refusal? (value : String) : ValueKind → Option Refusal
  | text => none
  | path => if value.isEmpty then some .noValue else none
  | language =>
    match Hint.parse value with
    | .ok _ => none
    | .error _ => some .badValue
  | number => if (number? value).isNone then some .badValue else none
  | oneOf words => if words.contains value then none else some .noValue

end ValueKind

/-- An argument with a value. -/
structure Argument where
  /-- The name, which for an option is written behind two dashes. -/
  name : String
  /-- What its values have to be. -/
  kind : ValueKind
  /-- Whether it may be given several times. -/
  many : Bool := false
deriving DecidableEq, Repr

/-- How arguments are written. -/
inductive Usage where
  /-- The flags, the options, the arguments that are told by their position, the sets of arguments of
  which one has to be given, the pairs of which only one may be, whether the version can be asked for,
  and the commands. -/
  | mk (flags : List String) (options positionals : List Argument) (required : List (List String))
    (exclusive : List (String × String)) (hasVersion : Bool) (commands : List (String × Usage))

namespace Usage

/-- The flags. -/
def flags : Usage → List String
  | mk flags .. => flags

/-- The options. -/
def options : Usage → List Argument
  | mk _ options .. => options

/-- The arguments that are told by their position. -/
def positionals : Usage → List Argument
  | mk _ _ positionals .. => positionals

/-- The sets of arguments of which one has to be given. -/
def required : Usage → List (List String)
  | mk _ _ _ required .. => required

/-- The pairs of arguments of which only one may be given. -/
def exclusive : Usage → List (String × String)
  | mk _ _ _ _ exclusive .. => exclusive

/-- Whether the version can be asked for. -/
def hasVersion : Usage → Bool
  | mk _ _ _ _ _ hasVersion _ => hasVersion

/-- The commands. -/
def commands : Usage → List (String × Usage)
  | mk _ _ _ _ _ _ commands => commands

/-- The command for help, which is there wherever there are commands. -/
def helpCommand : String := "help"

/-- Whether a word names a command. -/
def isCommand (u : Usage) (word : String) : Bool :=
  (u.commands.lookup word).isSome || (!u.commands.isEmpty && word == helpCommand)

/-- The outcome of asking for help on a command, whose words are given. -/
def helpOn : Usage → List String → Refusal
  | _, [] => .help
  | u, word :: rest =>
    match u.commands.lookup word with
    | some inner => helpOn inner rest
    | none => if u.isCommand word && rest.isEmpty then .help else .unknownCommand

end Usage

/-- The values that arguments were given, and those of the command among them. -/
inductive Arguments where
  /-- The values by the names of the arguments, and the command with its own. -/
  | mk (values : List (String × List String)) (command : Option (String × Arguments))

namespace Arguments

/-- The values of each argument. -/
def values : Arguments → List (String × List String)
  | mk values _ => values

/-- The command, with its arguments. -/
def command? : Arguments → Option (String × Arguments)
  | mk _ command => command

/-- Whether an argument is given. -/
def has (a : Arguments) (name : String) : Bool :=
  (a.values.lookup name).isSome

/-- All values of an argument, in order. -/
def all (a : Arguments) (name : String) : List String :=
  (a.values.filter fun v => v.1 == name).flatMap (·.2)

/-- The value of an argument. -/
def get? (a : Arguments) (name : String) : Option String :=
  (a.all name).head?

/-- The value of an argument that has to be given. -/
def get (a : Arguments) (name : String) : String :=
  (a.get? name).getD ""

end Arguments

/-! ## Reading -/

/-- Arguments that are being read. -/
structure Reading where
  /-- The arguments that are complete, in order. -/
  values : List (String × List String) := []
  /-- The argument that is not complete, with its values so far. -/
  pending : Option (Argument × List String) := none
  /-- Whether the value of the pending option comes next. -/
  awaitsValue : Bool := false
  /-- How many arguments there have been that are told by their position. -/
  position : Nat := 0
  /-- Whether what comes next is told by its position whatever it looks like. -/
  plain : Bool := false

namespace Reading

/-- Adds a complete argument. -/
def add (a : Argument) (given : List String) (r : Reading) : Except Refusal Reading :=
  if given.isEmpty then .error .noValue
  else if !a.many && (r.values.lookup a.name).isSome then .error .conflict
  else
    match given.findSome? fun v => a.kind.refusal? v with
    | some refusal => .error refusal
    | none => .ok { r with values := r.values ++ [(a.name, given)] }

/-- Completes the pending argument. -/
def close (r : Reading) : Except Refusal Reading :=
  match r.pending with
  | none => .ok { r with awaitsValue := false }
  | some (a, given) => { r with pending := none, awaitsValue := false }.add a given

/-- Reads a flag. -/
def flag (name : String) (r : Reading) : Except Refusal Reading := do
  let r ← r.close
  if (r.values.lookup name).isSome then .error .conflict
  else .ok { r with values := r.values ++ [(name, ["true"])] }

/-- Reads an option, perhaps with its value. -/
def option (a : Argument) (value : Option String) (r : Reading) : Except Refusal Reading := do
  let r ← r.close
  match value with
  | some value => r.add a [value]
  | none => .ok { r with pending := some (a, []), awaitsValue := true }

/-- Stops reading when nothing more is to be done than to tell something. -/
def stop (why : Refusal) (r : Reading) : Except Refusal Reading := do
  let _ ← r.close
  .error why

/-- Reads what is written behind two dashes. -/
def long (u : Usage) (name : String) (value : Option String) (r : Reading) :
    Except Refusal Reading :=
  let told := fun why => if value.isSome then .error .needlessValue else r.stop why
  if name == "help" then told .help
  else if name == "version" && u.hasVersion then told .version
  else if u.flags.contains name then
    if value.isSome then .error .needlessValue else r.flag name
  else
    match u.options.find? (·.name == name) with
    | some a => r.option a value
    | none => .error .unknown

/-- Reads what is written behind one dash: letters of which the first one decides. -/
def short (u : Usage) (letters : List Char) (r : Reading) : Except Refusal Reading :=
  match letters with
  | 'h' :: _ => r.stop .help
  | 'V' :: _ => if u.hasVersion then r.stop .version else .error .unknown
  | _ => .error .unknown

/-- Reads an argument that is told by its position. -/
def positional (u : Usage) (word : String) (r : Reading) : Except Refusal Reading := do
  match u.positionals[r.position]? with
  | none =>
    if u.commands.isEmpty || (r.plain && u.isCommand word) then .error .unknown
    else .error .unknownCommand
  | some a =>
    match r.pending with
    | some (b, given) =>
      if a = b && a.many then .ok { r with pending := some (a, given ++ [word]) }
      else
        let r ← r.close
        .ok { r with
          pending := some (a, [word])
          position := if a.many then r.position else r.position + 1 }
    | none =>
      .ok { r with
        pending := some (a, [word])
        position := if a.many then r.position else r.position + 1 }

/-- The name and the value of an option that are written in one word. -/
def splitEquals (s : List Char) : String × Option String :=
  let name := s.takeWhile (· != '=')
  match s.drop name.length with
  | [] => (String.ofList name, none)
  | _ :: value => (String.ofList name, some (String.ofList value))

/-- Reads a word that names no command. -/
def word (u : Usage) (word : String) (r : Reading) : Except Refusal Reading :=
  if r.plain then r.positional u word
  else
    match word.toList with
    | ['-', '-'] => .ok { r with plain := true }
    | '-' :: '-' :: rest =>
      let (name, value) := splitEquals rest
      r.long u name value
    | '-' :: c :: rest => r.short u (c :: rest)
    | _ =>
      if r.awaitsValue then
        .ok { r with
          pending := r.pending.map fun p => (p.1, p.2 ++ [word])
          awaitsValue := false }
      else r.positional u word

/-- The arguments when everything has been read. -/
def finish (u : Usage) (command : Option (String × Arguments)) (r : Reading) :
    Except Refusal Arguments := do
  let r ← r.close
  let a := Arguments.mk r.values command
  if command.isNone && !u.commands.isEmpty then
    if r.values.isEmpty then .error .nothingGiven else .error .noCommand
  else if u.exclusive.any fun p => a.has p.1 && a.has p.2 then .error .conflict
  else if u.required.any fun names => !names.any a.has then .error .missing
  else .ok a

/-- Reads words. -/
def words : Usage → Reading → List String → Except Refusal Arguments
  | u, r, [] => r.finish u none
  | u, r, w :: rest =>
    if !r.plain && !r.awaitsValue && u.isCommand w then
      match u.commands.lookup w with
      | none => .error (u.helpOn rest)
      | some inner => do
        let a ← words inner {} rest
        r.finish u (some (w, a))
    else do
      let r ← r.word u w
      words u r rest

end Reading

/-- The arguments that some words give. -/
def Usage.read (u : Usage) (words : List String) : Except Refusal Arguments :=
  Reading.words u {} words

end CodeGloss
