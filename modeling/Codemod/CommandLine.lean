import Codemod.CommandLine.Options
import Codemod.Config.Load
import Codemod.Log.Line
import Codemod.Migration
import Codemod.Tree.Directory

/-!
# The command

The command migrates a project on a disk and reports what it did.

## Main definitions

* `World` — what the command is run in.
* `Execution` — what the command leaves behind.
* `execute` — runs the command.
-/

namespace Codemod.CommandLine

/-- What the command is run in. -/
structure World where
  /-- The top directory of the disk. -/
  disk : Node
  /-- The place of the working directory. -/
  base : Place
  /-- The variables of the environment. -/
  environment : List (String × String)
  deriving Inhabited

namespace World

/-- The place that a path starts from. -/
def start (w : World) (path : String) : Place := if path.startsWith "/" then [] else w.base

/-- What a path leads to. -/
def find? (w : World) (path : String) : Option Node :=
  w.disk.find? (w.start path) (Path.names path)

/-- `w.isDirectory path` tells whether `path` leads to a directory. -/
def isDirectory (w : World) (path : String) : Bool :=
  match w.find? path with
  | some (.dir _) => !path.isEmpty
  | _ => false

/-- The contents of the file that a path leads to. -/
def readFile (w : World) (path : String) : Option ByteArray :=
  match w.find? path with
  | some (.file content _) => if path.isEmpty then none else some content
  | _ => none

/-- The value of a variable. -/
def valueOf (w : World) (name : String) : Option String := w.environment.lookup name

end World

/-- What the command leaves behind. -/
structure Execution where
  code : Nat
  output : String
  /-- The lines that go beside the output. -/
  notices : List Log.Line
  disk : Node
  deriving Inhabited

/-- The name and the version of the command. -/
def versionText : String := "apishift 0.3.0\n"

/-- How the command is used. -/
def helpText : String :=
  "Rewrite a project so it tracks a library's breaking API changes\n\n" ++
  "Usage: apishift [OPTIONS]\n\n" ++
  "Options:\n" ++
  "      --root <ROOT>          Project root to migrate [default: .]\n" ++
  "      --rules <RULES>        Rule-set file read when the project has none at the configured path\n" ++
  "      --dry-run              Report what would change without writing any file\n" ++
  "      --scope-root <PREFIX>  Only touch files under this prefix " ++
  "(repeatable, replaces the configured roots)\n" ++
  "      --json                 Print the run report as JSON on stdout\n" ++
  "  -h, --help                 Print help\n" ++
  "  -V, --version              Print version\n"

/-- The lines about arguments that are refused. -/
def usageNotices (e : Stop) : List Log.Line :=
  [.text ("error: " ++ e.message), .text "", .text "Usage: apishift [OPTIONS]", .text "",
    .text "For more information, try '--help'."]

/-- A text of several lines with all of them indented. -/
def indent (s : String) : String := "\n".intercalate ((s.splitOn "\n").map fun l => "    " ++ l)

/-- The lines about a failure and its cause. -/
def failureNotices (message : String) (cause : Option String) : List Log.Line :=
  match cause with
  | none => [.text ("Error: " ++ message)]
  | some c => [.text ("Error: " ++ message), .text "", .text "Caused by:", .text (indent c)]

/-- The path of the settings file of a project. -/
def settingsPath (root : String) : String :=
  (if root.endsWith "/" then root else root ++ "/") ++ ".apishift/config.toml"

/-- What there is at the path of the settings file of a project. -/
def settingsFile (w : World) (root : String) : Config.SettingsFile :=
  match w.find? (settingsPath root) with
  | none => .missing
  | some (.file content _) => .file (settingsPath root) content
  | some _ => .unreadable

/-- The configuration of a project with what the arguments say put over it. -/
def configure (w : World) (o : Options) : Except MigrationError Config := do
  let c ← (Config.load (settingsFile w o.rootPath) w.environment).value
  return { c with
    ruleSetFile := o.rules.or c.ruleSetFile
    scopeRoots := if o.scopeRoots.isEmpty then c.scopeRoots else o.scopeRoots }

/-- The level of events that are shown. -/
def levelOf (w : World) (c : Config) : Level :=
  (((w.valueOf "LOG_LEVEL").bind Log.level?).or (Log.level? c.logLevel)).getD .info

/-- The format of events that are shown. -/
def formatOf (w : World) (c : Config) : LogFormat :=
  match (w.valueOf "LOG_FORMAT").map fun f => String.ofList (Log.lower f.toList) with
  | some "json" => .json
  | some "pretty" | some "human" => .pretty
  | _ => c.logFormat

/-- The lines of the events that are shown. -/
def eventNotices (w : World) (c : Config) (events : List Event) : List Log.Line :=
  let (filter, refused) :=
    Log.Filter.ofText ((w.valueOf "RUST_LOG").getD "") (levelOf w c)
  let line := match formatOf w c with
    | .json => Log.documentLine filter
    | .pretty => Log.plainLine filter
  refused.map Log.Line.text ++ (events.filter filter.shows).map line

/-- A report over several lines. -/
def renderReport (r : Report) (dryRun : Bool) : String :=
  let mark := if dryRun then "[dry run] " else ""
  let changes := r.changes.map fun c =>
    mark ++ c.path ++ " (" ++ c.strategy.name ++ ", " ++ c.changeSet ++ ")\n"
  let issues := r.issues.map fun i => mark ++ "skipped " ++ i.path ++ ": " ++ i.reason ++ "\n"
  String.join (changes ++ issues) ++ mark ++ r.summary ++ "\n"

/-- The event at the start of a migration. -/
def startEvent (o : Options) : Event :=
  ⟨.debug, "apishift::cli", "Starting API migration",
    [("root", .text o.rootPath), ("dry_run", .flag o.dryRun)], []⟩

/-- Migrates a project that has been configured.  There is no answer if a comment of a file is no part
of it. -/
def migrate (provider : Syntax.Provider) (regex : Regex.Compiler) (w : World) (o : Options)
    (c : Config) : Option Execution :=
  let m : Migration := ⟨c, provider, regex, fun path => (w.readFile path).map Except.ok⟩
  let tree : DirectoryTree := ⟨w.disk, w.start o.rootPath, o.rootPath, o.dryRun, []⟩
  let result := m.run tree
  match result.value with
  | .error _ => none
  | .ok p =>
    let notices := eventNotices w c (startEvent o :: result.events)
    let output :=
      if o.json then String.ofList p.report.toValue.pretty ++ "\n"
      else renderReport p.report o.dryRun
    if p.report.isInvalid then
      some ⟨1, output, notices ++ failureNotices p.report.summary none, p.tree.disk⟩
    else some ⟨0, output, notices, p.tree.disk⟩

/-- Runs the command with options. -/
def executeOptions (provider : Syntax.Provider) (regex : Regex.Compiler) (w : World)
    (o : Options) : Option Execution :=
  let failed (notices : List Log.Line) : Option Execution := some ⟨1, "", notices, w.disk⟩
  if !w.isDirectory o.rootPath then
    failed (failureNotices ("Project root " ++ o.rootPath ++ " is not a directory") none)
  else
    match configure w o with
    | .error e =>
      failed (failureNotices ("Failed to load configuration for " ++ o.rootPath) (some e.message))
    | .ok c =>
      match c.validate with
      | .error e => failed (failureNotices e.message none)
      | .ok _ => migrate provider regex w o c

/-- Runs the command with arguments. -/
def execute (provider : Syntax.Provider) (regex : Regex.Compiler) (w : World)
    (arguments : List String) : Option Execution :=
  match Request.ofArguments arguments with
  | .error e => some ⟨2, "", usageNotices e, w.disk⟩
  | .ok .help => some ⟨0, helpText, [], w.disk⟩
  | .ok .version => some ⟨0, versionText, [], w.disk⟩
  | .ok (.options o) => executeOptions provider regex w o

end Codemod.CommandLine
