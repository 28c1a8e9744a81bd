import CodeGloss.Command.Usage

/-!
# Commands

What the program can be told to do.
-/

namespace CodeGloss

/-- How to list definitions. -/
structure DetectRequest where
  /-- The files and directories to look into. -/
  paths : List String
  /-- The language to look for. -/
  language : Option Hint := none
  /-- Whether to print records. -/
  json : Bool := false
  /-- The patterns for files found below directories. -/
  globs : List String := []
  /-- Whether to go on when the file changes. -/
  watch : Bool := false
deriving DecidableEq, Repr

/-- How to browse a file. -/
structure BrowseRequest where
  /-- The file. -/
  path : String
  /-- What it is stored as. -/
  fileId : Option String := none
  /-- Its language. -/
  language : Option Hint := none
  /-- Whether changes to the file do not matter. -/
  noWatch : Bool := false
deriving DecidableEq, Repr

/-- How to store a file. -/
structure UploadRequest where
  /-- The file. -/
  path : String
  /-- The name to store it under. -/
  name : Option String := none
deriving DecidableEq, Repr

/-- How to explain a definition. -/
structure AnnotateRequest where
  /-- The file. -/
  path : String
  /-- What it is stored as. -/
  fileId : Option String := none
  /-- The line on which the definition starts. -/
  line : Option Nat := none
  /-- The name of the definition. -/
  name : Option String := none
  /-- Whether to ask for more detail. -/
  more : Bool := false
  /-- The language of the file. -/
  language : Option Hint := none
deriving DecidableEq, Repr

/-- What to do. -/
inductive Command where
  /-- To list definitions. -/
  | detect (request : DetectRequest)
  /-- To browse a file. -/
  | browse (request : BrowseRequest)
  /-- To store a file. -/
  | upload (request : UploadRequest)
  /-- To explain a definition. -/
  | annotate (request : AnnotateRequest)
  /-- To list the stored files. -/
  | listFiles
  /-- To delete a stored file. -/
  | deleteFile (fileId : String)
  /-- To print what a shell needs to complete commands. -/
  | completions (shell : String)
deriving DecidableEq, Repr

/-- What to do, and with which settings. -/
structure CommandLine where
  /-- The file with the settings. -/
  settings : Option String := none
  /-- What to do. -/
  command : Command
deriving DecidableEq, Repr

namespace Command

/-! ## Usage -/

/-- The file with the settings, which may be named anywhere. -/
def settingsOption : Argument := { name := "config", kind := .path }

/-- The language of a file. -/
def languageOption : Argument := { name := "language", kind := .language }

/-- What a file is stored as. -/
def fileIdOption : Argument := { name := "file-id", kind := .text }

/-- The file that a command is about. -/
def pathArgument : Argument := { name := "path", kind := .path }

/-- The shells for which there are completions. -/
def shells : List String := ["bash", "elvish", "fish", "powershell", "zsh"]

/-- The usage for listing definitions. -/
def detectUsage : Usage :=
  .mk ["json", "watch"]
    [settingsOption, languageOption, { name := "glob", kind := .text, many := true }]
    [{ name := "paths", kind := .path, many := true }] [["paths"]] [] false []

/-- The usage for browsing. -/
def browseUsage : Usage :=
  .mk ["no-watch"] [settingsOption, fileIdOption, languageOption] [pathArgument] [["path"]] [] false
    []

/-- The usage for storing a file. -/
def uploadUsage : Usage :=
  .mk [] [settingsOption, { name := "name", kind := .text }] [pathArgument] [["path"]] [] false []

/-- The usage for explaining a definition. -/
def annotateUsage : Usage :=
  .mk ["more"]
    [settingsOption, fileIdOption, { name := "line", kind := .number },
      { name := "name", kind := .text }, languageOption]
    [pathArgument] [["path"], ["line", "name"]] [("line", "name")] false []

/-- The usage for the stored files. -/
def filesUsage : Usage :=
  .mk [] [settingsOption] [] [] [] false
    [("list", .mk [] [settingsOption] [] [] [] false []),
      ("delete", .mk [] [settingsOption] [{ name := "id", kind := .text }] [["id"]] [] false [])]

/-- The usage for completions. -/
def completionsUsage : Usage :=
  .mk [] [settingsOption] [{ name := "shell", kind := .oneOf shells }] [["shell"]] [] false []

/-- The usage of the program. -/
def usage : Usage :=
  .mk [] [settingsOption] [] [] [] true
    [("detect", detectUsage), ("browse", browseUsage), ("upload", uploadUsage),
      ("annotate", annotateUsage), ("files", filesUsage), ("completions", completionsUsage)]

/-! ## Reading -/

/-- The language that is asked for. -/
def languageOf (a : Arguments) : Option Hint :=
  (a.get? "language").map Hint.parseLenient

/-- What a command and its arguments say to do. -/
def ofArguments (name : String) (a : Arguments) : Command :=
  match name with
  | "browse" =>
    .browse
      { path := a.get "path"
        fileId := a.get? "file-id"
        language := languageOf a
        noWatch := a.has "no-watch" }
  | "upload" => .upload { path := a.get "path", name := a.get? "name" }
  | "annotate" =>
    .annotate
      { path := a.get "path"
        fileId := a.get? "file-id"
        line := (a.get? "line").bind ValueKind.number?
        name := a.get? "name"
        more := a.has "more"
        language := languageOf a }
  | "files" =>
    match a.command? with
    | some ("delete", inner) => .deleteFile (inner.get "id")
    | _ => .listFiles
  | "completions" => .completions (a.get "shell")
  | _ =>
    .detect
      { paths := a.all "paths"
        language := languageOf a
        json := a.has "json"
        globs := a.all "glob"
        watch := a.has "watch" }

/-- The innermost file with settings that is named. -/
def settingsOf : Nat → Arguments → Option String
  | 0, a => a.get? "config"
  | depth + 1, a => (a.command?.bind fun c => settingsOf depth c.2) <|> a.get? "config"

end Command

/-- What some words tell the program to do. -/
def CommandLine.read (words : List String) : Except Refusal CommandLine :=
  (Command.usage.read words).map fun a =>
    let command := match a.command? with
      | some (name, inner) => Command.ofArguments name inner
      | none => .listFiles
    { settings := Command.settingsOf 2 a, command := command }

end CodeGloss
