import CodeGloss.Block.Extent
import CodeGloss.Cause
import CodeGloss.Language
import CodeGloss.Service.Client
import CodeGloss.Toml.Reader

/-!
# Settings

What a user may set, in four sections.  Settings come in layers: what is built in, the user's own
file, the file of the workspace (or one named on the command line), and the environment.  A layer
leaves every setting as it was that it does not mention; and since a file that mentions a setting
with its built-in value reads the same as one that does not, neither does that change anything.
-/

namespace CodeGloss

/-! ## Sections -/

/-- How definitions are found. -/
structure DetectorSettings where
  /-- The columns that a tab takes up. -/
  tabWidth : Nat := 4
  /-- Whether delimiters inside literals and comments count. -/
  counting : Block.Counting := .literalAware
  /-- The language to look for. -/
  language : String := "auto"
deriving DecidableEq, Repr, Inhabited

/-- How the service is reached. -/
structure ServiceSettings where
  /-- Where its operations are found. -/
  baseUrl : String := "http://localhost:5000/api/v1"
  /-- How many seconds a reply may take. -/
  timeoutSeconds : Nat := 30
  /-- The credentials. -/
  token : Option String := none
deriving DecidableEq, Repr, Inhabited

/-- How the browser looks. -/
structure DisplaySettings where
  /-- The colours of the code. -/
  theme : String := "base16-ocean.dark"
  /-- The share of the screen that the code has, in percent. -/
  splitPercent : Nat := 70
deriving DecidableEq, Repr, Inhabited

/-- What is logged. -/
structure LoggingSettings where
  /-- The level of detail. -/
  level : String := "info"
deriving DecidableEq, Repr, Inhabited

/-- All settings. -/
structure Settings where
  /-- How definitions are found. -/
  detector : DetectorSettings := {}
  /-- How the service is reached. -/
  service : ServiceSettings := {}
  /-- How the browser looks. -/
  display : DisplaySettings := {}
  /-- What is logged. -/
  logging : LoggingSettings := {}
deriving DecidableEq, Repr, Inhabited

/-! ## What the settings mean -/

/-- The options for finding blocks.  A tab takes up at least one column. -/
def DetectorSettings.options (s : DetectorSettings) : Block.Options :=
  ⟨max s.tabWidth 1, s.counting⟩

/-- The language to look for.  An unknown name leaves the choice open. -/
def DetectorSettings.hint (s : DetectorSettings) : Hint :=
  Hint.parseLenient s.language

/-- The language of a file: the one asked for, else the one set, else what its extension tells. -/
def DetectorSettings.hintFor (s : DetectorSettings) (asked : Option Hint) (path : String) : Hint :=
  asked.getD s.hint <|> Hint.ofPath path

/-- How many seconds a reply may take, at least one. -/
def ServiceSettings.timeout (s : ServiceSettings) : Nat :=
  max s.timeoutSeconds 1

/-- The client for the service. -/
def ServiceSettings.client (s : ServiceSettings) : Service.Client :=
  .ofSettings s.baseUrl s.token

/-! ## Reading -/

namespace Settings

open Toml

/-- A setting with a value of its own, or the built-in one where it is missing. -/
def setting (default : α) (read : Value → Option α) : Option Value → Option α
  | none => some default
  | some v => read v

/-- A text. -/
def text? : Value → Option String
  | .text s => some s
  | _ => none

/-- Numbers of settings are below this number. -/
def wordLimit : Nat := 0x10000000000000000

/-- The share of the screen is below this number. -/
def percentLimit : Nat := 0x10000

/-- A whole number from zero up to a limit. -/
def naturalBelow? (limit : Nat) : Value → Option Nat
  | .integer n => if 0 ≤ n && n < limit then some n.toNat else none
  | _ => none

/-- The policy of a name, in its one spelling. -/
def countingNamed? (name : String) : Option Block.Counting :=
  [Block.Counting.literalAware, .naive].find? fun c => c.name == name

/-- Whether a value holds nothing. -/
def isEmptyValue : Value → Bool
  | .array items => items.isEmpty
  | .tables items => items.isEmpty
  | .table _ entries => entries.isEmpty
  | _ => false

/-- A policy, spelled as its name alone or as the only key of a table that holds nothing. -/
def counting? : Value → Option Block.Counting
  | .text name => countingNamed? name
  | .table _ [(name, v)] => if isEmptyValue v then countingNamed? name else none
  | _ => none

/-- The values of a section's settings, in the order of `names`.  A section is a table, or a list of
its values in order.  A date or a time stands for a section without values. -/
def values? (names : List String) : Option Value → Option (List (Option Value))
  | none => some (names.map fun _ => none)
  | some (.table _ entries) => some (names.map fun name => entries.lookup name)
  | some (.array items) => some ((List.range names.length).map fun n => items[n]?)
  | some (.tables items) => some ((List.range names.length).map fun n => items[n]?)
  | some .moment => some (names.map fun _ => none)
  | some _ => none

/-- Reads the section on finding definitions. -/
def detector? (v : Option Value) : Option DetectorSettings := do
  match ← values? ["tab_width", "brace_counting", "language"] v with
  | [tabWidth, counting, language] =>
    let tabWidth ← setting 4 (naturalBelow? wordLimit) tabWidth
    let counting ← setting .literalAware counting? counting
    let language ← setting "auto" text? language
    some ⟨tabWidth, counting, language⟩
  | _ => none

/-- Reads the section on the service. -/
def service? (v : Option Value) : Option ServiceSettings := do
  match ← values? ["base_url", "timeout_secs", "token"] v with
  | [baseUrl, timeout, token] =>
    let baseUrl ← setting ({} : ServiceSettings).baseUrl text? baseUrl
    let timeout ← setting 30 (naturalBelow? wordLimit) timeout
    let token ← setting none (fun v => (text? v).map some) token
    some ⟨baseUrl, timeout, token⟩
  | _ => none

/-- Reads the section on the browser. -/
def display? (v : Option Value) : Option DisplaySettings := do
  match ← values? ["theme", "split_percent"] v with
  | [theme, percent] =>
    let theme ← setting ({} : DisplaySettings).theme text? theme
    let percent ← setting 70 (naturalBelow? percentLimit) percent
    some ⟨theme, percent⟩
  | _ => none

/-- Reads the section on logging. -/
def logging? (v : Option Value) : Option LoggingSettings := do
  match ← values? ["level"] v with
  | [level] => (setting "info" text? level).map (⟨·⟩)
  | _ => none

/-- The settings that a text spells. -/
def read? (text : String) : Option Settings := do
  let entries ← Toml.read? text
  let detector ← detector? (entries.lookup "detector")
  let service ← service? (entries.lookup "service")
  let display ← display? (entries.lookup "display")
  let logging ← logging? (entries.lookup "logging")
  some ⟨detector, service, display, logging⟩

/-! ## Layers -/

/-- The value of a setting in two layers, the later one first asked. -/
def choose [DecidableEq α] (builtIn earlier later : α) : α :=
  if later = builtIn then earlier else later

/-- The settings of two layers together. -/
def merge (earlier later : Settings) : Settings :=
  let builtIn : Settings := {}
  { detector :=
      { tabWidth := choose builtIn.detector.tabWidth earlier.detector.tabWidth later.detector.tabWidth
        counting := choose builtIn.detector.counting earlier.detector.counting later.detector.counting
        language :=
          choose builtIn.detector.language earlier.detector.language later.detector.language }
    service :=
      { baseUrl := choose builtIn.service.baseUrl earlier.service.baseUrl later.service.baseUrl
        timeoutSeconds :=
          choose builtIn.service.timeoutSeconds earlier.service.timeoutSeconds
            later.service.timeoutSeconds
        token := later.service.token <|> earlier.service.token }
    display :=
      { theme := choose builtIn.display.theme earlier.display.theme later.display.theme
        splitPercent :=
          choose builtIn.display.splitPercent earlier.display.splitPercent
            later.display.splitPercent }
    logging :=
      { level := choose builtIn.logging.level earlier.logging.level later.logging.level } }

/-- What the environment sets. -/
structure Overrides where
  /-- Where the service is found. -/
  serviceUrl : Option String := none
  /-- The credentials; a blank text does not count. -/
  token : Option String := none
  /-- The level of detail of the log. -/
  log : Option String := none
deriving DecidableEq, Repr, Inhabited

/-- The settings with what the environment sets. -/
def override (s : Settings) (o : Overrides) : Settings :=
  { s with
    service :=
      { s.service with
        baseUrl := o.serviceUrl.getD s.service.baseUrl
        token := (o.token.filter fun t => !Text.isAllBlank t.toList) <|> s.service.token }
    logging := { s.logging with level := o.log.getD s.logging.level } }

/-- The settings in a file. -/
def ofFile (disk : Disk) (path : String) : Except Report Settings := do
  let text ← Fault.during ("failed to read config file: " ++ Path.text path) (disk.readText path)
  match read? text with
  | some s => .ok s
  | none =>
    .error [.said ("invalid config file: " ++ Path.text path), .said "failed to parse TOML config",
      .malformed .toml]

/-- The settings with those of a file on top, if there is such a file. -/
def addFile (disk : Disk) (s : Settings) : Option String → Except Report Settings
  | none => .ok s
  | some path => if disk.has path then (ofFile disk path).map (merge s) else .ok s

/-- The settings of the built-in layer, a file of the user, a file of the workspace, and the
environment. -/
def ofLayers (disk : Disk) (user workspace : Option String) (overrides : Overrides) :
    Except Report Settings := do
  let s ← addFile disk {} user
  let s ← addFile disk s workspace
  return s.override overrides

end Settings

/-! ## Finding the files -/

/-- The variables of the environment. -/
abbrev Environment := List (String × String)

namespace Settings

/-- The directory of a workspace: the nearest one upwards from a path that holds `.git`. -/
def repositoryRoot? (disk : Disk) (start : String) : Option String :=
  (Path.upwards start).find? fun path => disk.has (Path.join path ".git")

/-- The root of the workspace: that of the repository around the working directory, or the working
directory itself. -/
def workspaceRoot (disk : Disk) : String :=
  let here := Disk.pathOf disk.here
  (repositoryRoot? disk here).getD here

/-- The directory for a user's settings. -/
def userDirectory? (env : Environment) : Option String :=
  match (env.lookup "XDG_CONFIG_HOME").filter Path.isAbsolute with
  | some directory => some directory
  | none => ((env.lookup "HOME").filter (!·.isEmpty)).map fun home => Path.join home ".config"

/-- The file with the settings of a workspace. -/
def workspaceFile (root : String) : String :=
  Path.join root ".spanlens/config.toml"

/-- The file with a user's settings. -/
def userFile? (env : Environment) : Option String :=
  (userDirectory? env).map fun d => Path.join d "spanlens/config.toml"

/-- The variables of the environment that the settings depend on. -/
def variableNames : List String :=
  ["HOME", "XDG_CONFIG_HOME", "SPANLENS_SERVICE_URL", "SPANLENS_TOKEN", "SPANLENS_LOG"]

/-- What the environment sets. -/
def overridesOf (env : Environment) : Overrides where
  serviceUrl := env.lookup "SPANLENS_SERVICE_URL"
  token := env.lookup "SPANLENS_TOKEN"
  log := env.lookup "SPANLENS_LOG"

/-- The settings for a run in the working directory.  A file named on the command line has to be
there, and takes the place of the workspace's. -/
def load (disk : Disk) (env : Environment) (named : Option String) : Except Report Settings :=
  let user := userFile? env
  match named with
  | some path =>
    if disk.has path then ofLayers disk user (some path) (overridesOf env)
    else .error [.said ("config file not found: " ++ Path.text path)]
  | none =>
    ofLayers disk user (some (workspaceFile (workspaceRoot disk))) (overridesOf env)

end Settings
end CodeGloss
