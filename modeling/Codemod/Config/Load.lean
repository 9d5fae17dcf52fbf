import Codemod.Config
import Codemod.Settings.Document
import Codemod.Settings.Variable

/-!
# Loading the configuration

The configuration is made of three layers: the defaults, a settings file, and the environment.

## Main definitions

* `Config.ofSetting` — the configuration that settings say.
* `Config.load` — the configuration of a project.
-/

namespace Codemod.Config

/-- A list of texts as a setting. -/
def textList (items : List String) : Setting := .list (items.map Setting.text)

/-- The name of a format. -/
def formatName : LogFormat → String
  | .pretty => "pretty"
  | .json => "json"

/-- A configuration as settings. -/
def toSetting (c : Config) : Setting :=
  .table ([("scope_roots", textList c.scopeRoots), ("rule_set_path", .text c.ruleSetPath)] ++
    (c.ruleSetFile.map fun f => ("rule_set_file", Setting.text f)).toList ++
    [("segments", textList c.naming.segments),
      ("removable_segments", textList c.naming.removable),
      ("logging", .table [("level", .text c.logLevel), ("format", .text (formatName c.logFormat))])])

/-- The format of a name. -/
def format? (s : Setting) : Option LogFormat :=
  match s.text? with
  | some "pretty" => some .pretty
  | some "json" => some .json
  | _ => none

/-- The level and the format for events, which are a table or a list of both. -/
def logging? : Setting → Option (String × LogFormat)
  | .list (level :: format :: _) => do
    let level ← level.text?
    let format ← format? format
    return (level, format)
  | s => do
    let level ← (s.get? "level").bind Setting.text?
    let format ← (s.get? "format").bind format?
    return (level, format)

/-- A setting that may be missing. -/
def optionalText? : Option Setting → Option (Option String)
  | none => some none
  | some s => s.text?.map some

/-- The configuration that settings say, unless one of them is of the wrong kind. -/
def ofSetting (s : Setting) : Option Config := do
  let scopeRoots ← (s.get? "scope_roots").bind Setting.texts?
  let ruleSetPath ← (s.get? "rule_set_path").bind Setting.text?
  let ruleSetFile ← optionalText? (s.get? "rule_set_file")
  let segments ← (s.get? "segments").bind Setting.texts?
  let removable ← (s.get? "removable_segments").bind Setting.texts?
  let (logLevel, logFormat) ← (s.get? "logging").bind logging?
  return { scopeRoots, ruleSetPath, ruleSetFile, naming := ⟨segments, removable⟩, logLevel, logFormat }

/-- What there is at the path of the settings file. -/
inductive SettingsFile
  | missing
  /-- There is something, but no file. -/
  | unreadable
  | file (path : String) (content : ByteArray)
  deriving Inhabited

/-- The part of the engine that loads the configuration. -/
def target : String := "apishift_config::config"

/-- The settings of a file; `none` if it is out of order. -/
def fileSetting : SettingsFile → Option Setting
  | .file _ content => (String.fromUTF8? content).bind fun text => Settings.readDocument text.toList
  | _ => some (.table [])

/-- The layers of settings put over each other. -/
def layered (file : SettingsFile) (environment : List (String × String)) : Option Setting :=
  (fileSetting file).map fun s =>
    ((toSetting {}).merge s).merge (Settings.ofEnvironment environment)

/-- A list of texts in words. -/
def renderList (xs : List String) : String :=
  "[" ++ ", ".intercalate (xs.map fun x => String.ofList (Text.quote x.toList)) ++ "]"

/-- The configuration of a project. -/
def load (file : SettingsFile) (environment : List (String × String)) :
    Logged (Except MigrationError Config) := do
  match file with
  | .missing => pure ()
  | .unreadable => Logged.tell .debug target "Loading TOML configuration" []
  | .file path _ =>
    Logged.tell .debug target "Loading TOML configuration" [("path", .text path)]
  match (layered file environment).bind ofSetting with
  | none => return .error (.config "Failed to load configuration")
  | some c =>
    match c.validate with
    | .error e => return .error e
    | .ok _ =>
      Logged.tell .debug target "Configuration loaded successfully"
        [("scope_roots", .text (renderList c.scopeRoots)),
          ("rule_set_path", .text c.ruleSetPath)]
      return .ok c

end Codemod.Config
