import CodeGloss.Proofs.Files.Disk
import CodeGloss.Settings
import Mathlib.Control.Monad.Basic

/-!
# Layers of settings

Two files may have a say in the settings, the user's own one and that of the workspace, and after
them the environment has.  Here it is said for each setting what becomes of it (`Settings.Item`).

What a file sets a setting to is what is written in it under the name of the setting, if anything is
(`Item.setTo?`).  But settings that are read have no trace left of that: what is not written has
its built-in value (`Item.get_of_read?`).  So when the two files are put together, the later file is
passed over for every setting that has the built-in value in it (`Item.get_merge`), be it because it
does not set it or because it sets it to that value.  The second case is the only one in which the
later file does not get its way (`Settings.later_layer_wins_iff`).
-/

namespace CodeGloss
namespace Settings

/-! ## The settings one by one -/

/-- A setting. -/
inductive Item where
  | tabWidth
  | counting
  | language
  | baseUrl
  | timeoutSeconds
  | token
  | theme
  | splitPercent
  | level
deriving DecidableEq, Repr

namespace Item

/-- What the values of a setting are. -/
abbrev Value : Item → Type
  | tabWidth => Nat
  | counting => Block.Counting
  | language => String
  | baseUrl => String
  | timeoutSeconds => Nat
  | token => Option String
  | theme => String
  | splitPercent => Nat
  | level => String

instance : (i : Item) → DecidableEq i.Value
  | tabWidth => inferInstanceAs (DecidableEq Nat)
  | counting => inferInstanceAs (DecidableEq Block.Counting)
  | language => inferInstanceAs (DecidableEq String)
  | baseUrl => inferInstanceAs (DecidableEq String)
  | timeoutSeconds => inferInstanceAs (DecidableEq Nat)
  | token => inferInstanceAs (DecidableEq (Option String))
  | theme => inferInstanceAs (DecidableEq String)
  | splitPercent => inferInstanceAs (DecidableEq Nat)
  | level => inferInstanceAs (DecidableEq String)

/-- The value of a setting. -/
def get (s : Settings) : (i : Item) → i.Value
  | tabWidth => s.detector.tabWidth
  | counting => s.detector.counting
  | language => s.detector.language
  | baseUrl => s.service.baseUrl
  | timeoutSeconds => s.service.timeoutSeconds
  | token => s.service.token
  | theme => s.display.theme
  | splitPercent => s.display.splitPercent
  | level => s.logging.level

/-- The value that a setting has if nobody sets it. -/
def builtIn (i : Item) : i.Value :=
  i.get {}

/-! ## In a file -/

/-- The section of a file in which a setting is set, and the names of all its settings in order. -/
def section_ : Item → String × List String
  | tabWidth | counting | language => ("detector", ["tab_width", "brace_counting", "language"])
  | baseUrl | timeoutSeconds | token => ("service", ["base_url", "timeout_secs", "token"])
  | theme | splitPercent => ("display", ["theme", "split_percent"])
  | level => ("logging", ["level"])

/-- The position of a setting in its section. -/
def position : Item → Nat
  | tabWidth | baseUrl | theme | level => 0
  | counting | timeoutSeconds | splitPercent => 1
  | language | token => 2

/-- Reads a value of a setting. -/
def read? : (i : Item) → Toml.Value → Option i.Value
  | tabWidth => naturalBelow? wordLimit
  | counting => counting?
  | language => text?
  | baseUrl => text?
  | timeoutSeconds => naturalBelow? wordLimit
  | token => fun v => (text? v).map some
  | theme => text?
  | splitPercent => naturalBelow? percentLimit
  | level => text?

/-- What is written for a setting in a file with the given entries, if anything is. -/
def written? (i : Item) (entries : Toml.Entries) : Option Toml.Value := do
  let values ← values? i.section_.2 (entries.lookup i.section_.1)
  (values[i.position]?).join

/-- What a file with the given entries sets a setting to, if it sets it. -/
def setTo? (i : Item) (entries : Toml.Entries) : Option i.Value :=
  (i.written? entries).bind i.read?

/-- A file without entries sets nothing. -/
@[simp] theorem setTo?_nil (i : Item) : i.setTo? [] = none := by
  cases i <;> rfl

/-! ## In the environment -/

/-- What the environment sets a setting to, if it sets it. -/
def override? (o : Overrides) : (i : Item) → Option i.Value
  | baseUrl => o.serviceUrl
  | token => (o.token.filter fun t => !Text.isAllBlank t.toList).map some
  | level => o.log
  | _ => none

end Item

/-! ## Reading a file -/

/-- What a setting is read as: its value if it is written, or the built-in one. -/
theorem setting_eq_some {α : Type} {default x : α} {read : Toml.Value → Option α}
    {v : Option Toml.Value} (reads : setting default read v = some x) :
    x = (v.bind read).getD default := by
  cases v with
  | none => exact (Option.some.inj reads).symm
  | some v =>
    have reads : read v = some x := reads
    rw [Option.bind_some, reads, Option.getD_some]

section Sections

variable {v : Option Toml.Value}

theorem detector?_eq_some {d : DetectorSettings} (reads : detector? v = some d) :
    ∃ a b c, values? ["tab_width", "brace_counting", "language"] v = some [a, b, c] ∧
      setting 4 (naturalBelow? wordLimit) a = some d.tabWidth ∧
      setting .literalAware counting? b = some d.counting ∧
      setting "auto" text? c = some d.language := by
  obtain ⟨values, eq, reads⟩ := Option.bind_eq_some_iff.mp reads
  split at reads
  next a b c =>
    obtain ⟨tabWidth, ha, reads⟩ := Option.bind_eq_some_iff.mp reads
    obtain ⟨counting, hb, reads⟩ := Option.bind_eq_some_iff.mp reads
    obtain ⟨language, hc, reads⟩ := Option.bind_eq_some_iff.mp reads
    cases reads
    exact ⟨a, b, c, eq, ha, hb, hc⟩
  next => cases reads

theorem service?_eq_some {s : ServiceSettings} (reads : service? v = some s) :
    ∃ a b c, values? ["base_url", "timeout_secs", "token"] v = some [a, b, c] ∧
      setting ({} : ServiceSettings).baseUrl text? a = some s.baseUrl ∧
      setting 30 (naturalBelow? wordLimit) b = some s.timeoutSeconds ∧
      setting none (fun v => (text? v).map some) c = some s.token := by
  obtain ⟨values, eq, reads⟩ := Option.bind_eq_some_iff.mp reads
  split at reads
  next a b c =>
    obtain ⟨baseUrl, ha, reads⟩ := Option.bind_eq_some_iff.mp reads
    obtain ⟨timeout, hb, reads⟩ := Option.bind_eq_some_iff.mp reads
    obtain ⟨token, hc, reads⟩ := Option.bind_eq_some_iff.mp reads
    cases reads
    exact ⟨a, b, c, eq, ha, hb, hc⟩
  next => cases reads

theorem display?_eq_some {d : DisplaySettings} (reads : display? v = some d) :
    ∃ a b, values? ["theme", "split_percent"] v = some [a, b] ∧
      setting ({} : DisplaySettings).theme text? a = some d.theme ∧
      setting 70 (naturalBelow? percentLimit) b = some d.splitPercent := by
  obtain ⟨values, eq, reads⟩ := Option.bind_eq_some_iff.mp reads
  split at reads
  next a b =>
    obtain ⟨theme, ha, reads⟩ := Option.bind_eq_some_iff.mp reads
    obtain ⟨percent, hb, reads⟩ := Option.bind_eq_some_iff.mp reads
    cases reads
    exact ⟨a, b, eq, ha, hb⟩
  next => cases reads

theorem logging?_eq_some {l : LoggingSettings} (reads : logging? v = some l) :
    ∃ a, values? ["level"] v = some [a] ∧ setting "info" text? a = some l.level := by
  obtain ⟨values, eq, reads⟩ := Option.bind_eq_some_iff.mp reads
  split at reads
  next a =>
    obtain ⟨level, ha, rfl⟩ := Option.map_eq_some_iff.mp reads
    exact ⟨a, eq, ha⟩
  next => cases reads

end Sections

/-- Settings are read section by section. -/
theorem read?_eq_some {text : String} {s : Settings} (reads : read? text = some s) :
    ∃ entries, Toml.read? text = some entries ∧
      detector? (entries.lookup "detector") = some s.detector ∧
      service? (entries.lookup "service") = some s.service ∧
      display? (entries.lookup "display") = some s.display ∧
      logging? (entries.lookup "logging") = some s.logging := by
  obtain ⟨entries, eq, reads⟩ := Option.bind_eq_some_iff.mp reads
  obtain ⟨detector, hd, reads⟩ := Option.bind_eq_some_iff.mp reads
  obtain ⟨service, hs, reads⟩ := Option.bind_eq_some_iff.mp reads
  obtain ⟨display, hp, reads⟩ := Option.bind_eq_some_iff.mp reads
  obtain ⟨logging, hl, reads⟩ := Option.bind_eq_some_iff.mp reads
  cases reads
  exact ⟨entries, eq, hd, hs, hp, hl⟩

namespace Item

/-- In settings that are read from a file, a setting has the value that the file sets it to, or the
built-in one. -/
theorem get_of_read? {text : String} {entries : Toml.Entries} {s : Settings}
    (spells : Toml.read? text = some entries) (reads : Settings.read? text = some s) (i : Item) :
    i.get s = (i.setTo? entries).getD i.builtIn := by
  obtain ⟨entries', spells', detector, service, display, logging⟩ := read?_eq_some reads
  obtain rfl : entries' = entries := Option.some.inj (spells'.symm.trans spells)
  have here : ∀ {values : List (Option Toml.Value)} {v : Option Toml.Value},
      values? i.section_.2 (entries'.lookup i.section_.1) = some values →
        values[i.position]? = some v → setting i.builtIn i.read? v = some (i.get s) →
          i.get s = (i.setTo? entries').getD i.builtIn := by
    intro values v listed at_ reads
    have written : i.written? entries' = v := by
      rw [written?, listed, Option.bind_eq_bind, Option.bind_some, at_, Option.join_some]
    rw [setTo?, written]
    exact setting_eq_some reads
  obtain ⟨_, _, _, detectorListed, tabWidth, counting, language⟩ := detector?_eq_some detector
  obtain ⟨_, _, _, serviceListed, baseUrl, timeout, token⟩ := service?_eq_some service
  obtain ⟨_, _, displayListed, theme, divider⟩ := display?_eq_some display
  obtain ⟨_, loggingListed, level⟩ := logging?_eq_some logging
  cases i with
  | tabWidth => exact here detectorListed rfl tabWidth
  | counting => exact here detectorListed rfl counting
  | language => exact here detectorListed rfl language
  | baseUrl => exact here serviceListed rfl baseUrl
  | timeoutSeconds => exact here serviceListed rfl timeout
  | token => exact here serviceListed rfl token
  | theme => exact here displayListed rfl theme
  | splitPercent => exact here displayListed rfl divider
  | level => exact here loggingListed rfl level

/-! ## Putting layers together -/

/-- When layers are put together, the later one has a say unless the setting has the built-in value
in it. -/
theorem get_merge (i : Item) (earlier later : Settings) :
    i.get (merge earlier later) = choose i.builtIn (i.get earlier) (i.get later) := by
  cases i with
  | token =>
    show (later.service.token <|> earlier.service.token) =
      if later.service.token = none then earlier.service.token else later.service.token
    cases later.service.token <;> rfl
  | _ => rfl

theorem get_override (i : Item) (s : Settings) (o : Overrides) :
    i.get (s.override o) = (i.override? o).getD (i.get s) := by
  cases i with
  | token =>
    show (o.token.filter _ <|> s.service.token) = ((o.token.filter _).map some).getD s.service.token
    cases o.token.filter fun t => !Text.isAllBlank t.toList <;> rfl
  | _ => rfl

end Item

/-- The entries of a layer of settings, which is valid: those of the file, which can be read as
settings, and none if there is no file. -/
inductive Layer (disk : Disk) : Option String → Toml.Entries → Prop where
  /-- There is a file. -/
  | file {path text : String} {entries : Toml.Entries} (reads : disk.readText path = .ok text)
      (spells : Toml.read? text = some entries) (valid : (read? text).isSome) :
      Layer disk (some path) entries
  /-- There is no file at the path. -/
  | missing {path : String} (gone : disk.has path = false) : Layer disk (some path) []
  /-- There is no path. -/
  | absent : Layer disk none []

/-- What a layer does to the settings before it. -/
theorem addFile_of_layer {disk : Disk} {path : Option String} {entries : Toml.Entries}
    (layer : Layer disk path entries) (s : Settings) :
    ∃ s', addFile disk s path = .ok s' ∧
      ∀ i : Item, i.get s' = choose i.builtIn (i.get s) ((i.setTo? entries).getD i.builtIn) := by
  cases layer with
  | @file path text entries reads spells valid =>
    obtain ⟨written, reads'⟩ := Option.isSome_iff_exists.mp valid
    refine ⟨merge s written, ?_, fun i => ?_⟩
    · have opened : ofFile disk path = .ok written := by
        simp only [ofFile, reads, Fault.during, bind, Except.bind, reads']
      rw [addFile, if_pos (Disk.has_of_readText reads), opened]
      rfl
    · rw [Item.get_merge, Item.get_of_read? spells reads']
  | @missing path gone =>
    refine ⟨s, ?_, fun i => ?_⟩
    · rw [addFile, gone, if_neg Bool.false_ne_true]
    · rw [Item.setTo?_nil, Option.getD_none, choose, if_pos rfl]
  | absent =>
    refine ⟨s, rfl, fun i => ?_⟩
    rw [Item.setTo?_nil, Option.getD_none, choose, if_pos rfl]

/-- The file of the later layer: the one that is named, or that of the workspace. -/
def laterFile (disk : Disk) (named : Option String) : String :=
  named.getD (workspaceFile (workspaceRoot disk))

/-- The settings for a run are those of the layers. -/
theorem load_eq {disk : Disk} {env : Environment} {named : Option String}
    (there : ∀ path, named = some path → disk.has path = true) :
    load disk env named =
      ofLayers disk (userFile? env) (some (laterFile disk named)) (overridesOf env) := by
  cases named with
  | none => rfl
  | some path => exact if_pos (there path rfl)

namespace Item

/-- The value that a setting has by rights: the environment comes first, then the later layer, then
the earlier one, and the built-in value comes last. -/
def ranked (i : Item) (overrides : Overrides) (earlier later : Toml.Entries) : i.Value :=
  (i.override? overrides).getD ((i.setTo? later).getD ((i.setTo? earlier).getD i.builtIn))

/-- To be passed over for having the built-in value makes a difference only if that value was set,
and another one was set before. -/
theorem choose_eq_getD_iff {α : Type} [DecidableEq α] (builtIn : α) (earlier later : Option α) :
    choose builtIn (earlier.getD builtIn) (later.getD builtIn) =
        later.getD (earlier.getD builtIn) ↔
      ¬(later = some builtIn ∧ earlier.getD builtIn ≠ builtIn) := by
  cases later with
  | none => simp [choose]
  | some x =>
    by_cases same : x = builtIn
    · simp [choose, same]
    · simp [choose, same]

end Item

/-- **When the later layer gets its way.**  If both layers are valid then there are settings.  A
setting has the value that the environment sets it to; else the one that the later layer sets it to,
if that is not the built-in value; else the one that the earlier layer sets it to; else the built-in
value.  So it has the value that it has by rights, in all cases but one: the later layer sets it to
the built-in value, the earlier layer to another one, and the environment does not set it. -/
theorem later_layer_wins_iff {disk : Disk} {env : Environment} {named : Option String}
    {earlier later : Toml.Entries} (user : Layer disk (userFile? env) earlier)
    (workspace : Layer disk (some (laterFile disk named)) later)
    (there : ∀ path, named = some path → disk.has path = true) :
    ∃ s, load disk env named = .ok s ∧ ∀ i : Item,
      i.get s = (i.override? (overridesOf env)).getD
          (choose i.builtIn ((i.setTo? earlier).getD i.builtIn)
            ((i.setTo? later).getD i.builtIn)) ∧
        (i.get s = i.ranked (overridesOf env) earlier later ↔
          ¬(i.override? (overridesOf env) = none ∧ i.setTo? later = some i.builtIn ∧
            (i.setTo? earlier).getD i.builtIn ≠ i.builtIn)) := by
  obtain ⟨first, first_eq, first_get⟩ := addFile_of_layer user {}
  obtain ⟨both, both_eq, both_get⟩ := addFile_of_layer workspace first
  refine ⟨both.override (overridesOf env), ?_, fun i => ?_⟩
  · rw [load_eq there, ofLayers, first_eq]
    show (addFile disk first (some (laterFile disk named)) >>= _) = _
    rw [both_eq]
    rfl
  · have first_get : i.get first = (i.setTo? earlier).getD i.builtIn := by
      rw [first_get, show i.get {} = i.builtIn from rfl, choose]
      split
      next unset => exact unset.symm
      next => rfl
    have value := i.get_override both (overridesOf env)
    rw [both_get, first_get] at value
    refine ⟨value, ?_⟩
    rw [value, Item.ranked]
    cases i.override? (overridesOf env) with
    | some x => simp
    | none => simpa using Item.choose_eq_getD_iff i.builtIn (i.setTo? earlier) (i.setTo? later)

/-- A disk with a file of the user in `/user` and one of the workspace, which is the whole disk. -/
def layered (user workspace : String) : Disk where
  tree := .directory
    [("user", .directory [("spanlens", .directory [("config.toml", .file user.toUTF8)])]),
      (".spanlens", .directory [("config.toml", .file workspace.toUTF8)])]
  here := []

/-- Here the workspace leaves the tabs to the user and has its way with the divider, and the
environment has its way with the level. -/
theorem later_layer_wins_on_divider :
    let user := "[detector]\ntab_width = 8\n[display]\nsplit_percent = 60"
    let workspace := "[display]\nsplit_percent = 40\n[logging]\nlevel = \"warn\""
    let env : Environment := [("XDG_CONFIG_HOME", "/user"), ("SPANLENS_LOG", "debug")]
    ∃ earlier later s, Toml.read? user = some earlier ∧ Toml.read? workspace = some later ∧
      load (layered user workspace) env none = .ok s ∧
      s.detector.tabWidth = 8 ∧ s.display.splitPercent = 40 ∧ s.logging.level = "debug" ∧
      ∀ i : Item,
        i.get s = (i.override? (overridesOf env)).getD
            (choose i.builtIn ((i.setTo? earlier).getD i.builtIn)
              ((i.setTo? later).getD i.builtIn)) ∧
          (i.get s = i.ranked (overridesOf env) earlier later ↔
            ¬(i.override? (overridesOf env) = none ∧ i.setTo? later = some i.builtIn ∧
              (i.setTo? earlier).getD i.builtIn ≠ i.builtIn)) := by
  intro user workspace env
  have earlier : (Toml.read? user).isSome = true := by decide +kernel
  have later : (Toml.read? workspace).isSome = true := by decide +kernel
  have opened : (layered user workspace).readText "/user/spanlens/config.toml" = .ok user := by
    decide +kernel
  have first : Layer (layered user workspace) (userFile? env) ((Toml.read? user).get earlier) :=
    .file opened (Option.some_get _).symm (by decide +kernel)
  have second : Layer (layered user workspace) (some (laterFile (layered user workspace) none))
      ((Toml.read? workspace).get later) :=
    .file (by decide +kernel) (Option.some_get _).symm (by decide +kernel)
  have run : (load (layered user workspace) env none).toOption.map (fun s =>
      (s.detector.tabWidth, s.display.splitPercent, s.logging.level)) = some (8, 40, "debug") := by
    decide +kernel
  obtain ⟨s, loaded, each⟩ := later_layer_wins_iff first second nofun
  rw [loaded] at run
  obtain ⟨tabs, rest⟩ := Prod.mk.inj (Option.some.inj run)
  obtain ⟨divider, level⟩ := Prod.mk.inj rest
  exact ⟨_, _, s, (Option.some_get earlier).symm, (Option.some_get later).symm, loaded, tabs,
    divider, level, each⟩

/-- **The later layer does not always get its way.**  The workspace sets the tabs to four columns,
which happens to be the built-in value, and the tabs have the eight columns of the user. -/
theorem later_layer_passed_over :
    let user := "[detector]\ntab_width = 8"
    let workspace := "[detector]\ntab_width = 4"
    let env : Environment := [("XDG_CONFIG_HOME", "/user")]
    (Toml.read? workspace).bind Item.tabWidth.setTo? = some (4 : Nat) ∧
      Item.tabWidth.override? (overridesOf env) = none ∧
      (load (layered user workspace) env none).toOption.map Item.tabWidth.get = some (8 : Nat) := by
  refine ⟨?_, rfl, ?_⟩
  · decide +kernel
  · decide +kernel

end Settings
end CodeGloss
