import CodeGloss.Command.Command

/-!
# Help

What the program says about how it is used: a summary of its commands, its version, and what is wrong
with arguments that it refuses.
-/

namespace CodeGloss

namespace Usage

/-- How a positional argument is written. -/
def positionalText (a : Argument) : String :=
  "<" ++ a.name ++ ">" ++ if a.many then "..." else ""

/-- How an option is written. -/
def optionText (a : Argument) : String :=
  "[--" ++ a.name ++ " <" ++ a.name ++ ">]" ++ if a.many then "..." else ""

/-- How the arguments of a usage are written, behind the words that lead to it. -/
def line (words : String) (u : Usage) : String :=
  " ".intercalate
    ([words] ++ u.flags.map (fun f => "[--" ++ f ++ "]") ++ u.options.map optionText ++
      u.positionals.map positionalText)

mutual

/-- The lines of a usage and of all commands in it. -/
def lines (words : String) : Usage → List String
  | mk flags options positionals required exclusive hasVersion commands =>
    if commands.isEmpty then
      [(mk flags options positionals required exclusive hasVersion commands).line words]
    else linesOf words commands

/-- The lines of some commands. -/
def linesOf (words : String) : List (String × Usage) → List String
  | [] => []
  | (name, u) :: rest => lines (words ++ " " ++ name) u ++ linesOf words rest

end

end Usage

namespace Command

/-- The name of the program. -/
def programName : String := "spanlens"

/-- The name of the program with its version. -/
def versionText : String := programName ++ " 0.1.0\n"

/-- A summary of the commands. -/
def helpText : String :=
  "Find function and class definitions and annotate them\n\nUsage:\n" ++
    String.join ((usage.lines programName).map fun l => "  " ++ l ++ "\n")

end Command

/-- What is wrong with refused arguments; asking for help or the version is not wrong. -/
def Refusal.complaint? : Refusal → Option String
  | help => none
  | version => none
  | nothingGiven => some "a command is needed"
  | noCommand => some "a command is needed"
  | unknownCommand => some "there is no such command"
  | missing => some "a required argument is not given"
  | unknown => some "there is no such argument"
  | noValue => some "an argument has no value that it can have"
  | badValue => some "the value of an argument cannot be read"
  | needlessValue => some "a flag takes no value"
  | conflict => some "arguments do not go together"

/-- What the program prints about refused arguments. -/
def Refusal.text : Refusal → String
  | version => Command.versionText
  | r =>
    match r.complaint? with
    | none => Command.helpText
    | some complaint => "error: " ++ complaint ++ "\n\n" ++ Command.helpText

end CodeGloss
