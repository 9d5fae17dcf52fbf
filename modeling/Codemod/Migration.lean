import Codemod.Config
import Codemod.Report
import Codemod.RuleSet
import Codemod.Selector

/-!
# Migrations

A migration reads the rule set of a tree and applies its change sets, one after another, to the files
that each of them selects.  Nothing is written before the whole rule set has been accepted.

## Main definitions

* `Migration` — the settings of a migration and what it depends on.
* `Migration.loadRuleSet` — the rule set of a tree.
* `Migration.prepare` — the change sets of a rule set, ready to be applied.
* `Migration.apply` — applies a change set.
* `Migration.run` — the whole migration.
-/

namespace Codemod

/-- The settings of a migration and what it depends on. -/
structure Migration where
  config : Config
  provider : Syntax.Provider
  regex : Regex.Compiler
  /-- The contents of a file that is not of the tree, or why it cannot be read. -/
  readFile : String → Option (Except String ByteArray)

/-- A change set ready to be applied. -/
structure PreparedSet where
  category : String
  label : String
  patterns : List String
  selector : Selector
  rules : RulePair
  deriving Inhabited

/-- A tree and what has been done to it. -/
structure Progress (τ : Type) where
  tree : τ
  report : Report
  deriving Inhabited

namespace Migration

/-- The part of the engine that runs a migration. -/
def target : String := "apishift_services::services::migration"

/-- The path of the configured rule set and what reading it gives, if there is such a file. -/
def ruleSetFile? (m : Migration) : Option (String × Except String ByteArray) := do
  let file ← m.config.ruleSetFile
  let found ← m.readFile file
  return (file, found)

/-- The text of the rule set: of the file in the tree, or else of the file that is configured. -/
def ruleSetText {τ : Type} [FileTree τ] (m : Migration) (tree : τ) :
    Logged (Except MigrationError (Option String)) := do
  let path := m.config.ruleSetPath
  match ← FileTree.load tree path with
  | some bytes =>
    Logged.tell .debug target "Reading rule-set from tree" [("path", .text path)]
    match String.fromUTF8? bytes with
    | some text => return .ok (some text)
    | none => return .error (.ruleSetInvalid (path ++ " is not valid UTF-8"))
  | none =>
    match m.ruleSetFile? with
    | none => return .ok none
    | some (file, found) =>
      Logged.tell .debug target "Reading rule-set from disk" [("path", .text file)]
      match found with
      | .error message => return .error (.io message)
      | .ok bytes =>
        match String.fromUTF8? bytes with
        | some text => return .ok (some text)
        | none => return .error (.io "stream did not contain valid UTF-8")

/-- The rule set of a tree, if there is one. -/
def loadRuleSet {τ : Type} [FileTree τ] (m : Migration) (tree : τ) :
    Logged (Except MigrationError (Option RuleSet)) :=
  (m.ruleSetText tree).andThen fun text =>
    match text with
    | none => pure (.ok none)
    | some text => pure ((RuleSet.ofJson m.regex text).map some)

/-- A change set ready to be applied. -/
def prepareSet (m : Migration) (category : String) (s : ChangeSet) :
    Logged (Except MigrationError PreparedSet) := do
  let patterns ← m.config.naming.expandAll s.filePatterns
  return do
    let selector ← Selector.ofPatterns m.config.scopeRoots patterns
    let rules ← s.compile m.regex
    return ⟨category, s.label, patterns, selector, rules⟩

/-- Change sets ready to be applied; the first that cannot be is the answer. -/
def prepareSets (m : Migration) : List (String × ChangeSet) →
    Logged (Except MigrationError (List PreparedSet))
  | [] => pure (.ok [])
  | (category, s) :: rest =>
    (m.prepareSet category s).andThen fun set =>
      (m.prepareSets rest).andThen fun sets => pure (.ok (set :: sets))

/-- The change sets of a rule set, ready to be applied. -/
def prepare (m : Migration) (r : RuleSet) : Logged (Except MigrationError (List PreparedSet)) :=
  m.prepareSets r.changeSets

/-- The words for a change of a file. -/
def appliedMessage : Strategy → String
  | .markup => "Applied HTML API changes"
  | .code => "Applied TS API changes"
  | .text => "Applied API changes"

/-- Notes that a change set could not be applied to a file. -/
def noteIssue {τ : Type} (set : PreparedSet) (path message : String) (e : MigrationError)
    (p : Progress τ) : Logged (Except RenameError (Progress τ)) := do
  Logged.tell .warn target message [("file_path", .text path), ("error", .text e.message)]
  return .ok { p with report := p.report.addIssue ⟨path, set.label, e.message⟩ }

/-- Writes the new contents of a file. -/
def writeBack {τ : Type} [FileTree τ] (set : PreparedSet) (path : String) (t : Transformed)
    (p : Progress τ) : Logged (Except RenameError (Progress τ)) := do
  match ← FileTree.overwrite p.tree path (String.ofList t.content).toUTF8 with
  | .error e => noteIssue set path "Failed to write file" e p
  | .ok tree =>
    Logged.tell .info target (appliedMessage t.strategy) [("file_path", .text path)]
    return .ok ⟨tree, p.report.addChange ⟨path, set.category, set.label, t.strategy⟩⟩

/-- Applies a change set to a text file. -/
def applyToSource {τ : Type} [FileTree τ] (m : Migration) (set : PreparedSet) (path : String)
    (source : List Char) (p : Progress τ) : Logged (Except RenameError (Progress τ)) := do
  match ← transform m.provider path source set.rules with
  | .error e =>
    match e.toMigrationError? with
    | some cause => noteIssue set path "Leaving file unchanged" cause p
    | none => return .error e
  | .ok t => if t.content = source then return .ok p else writeBack set path t p

/-- Applies a change set to a file. -/
def applyToFile {τ : Type} [FileTree τ] (m : Migration) (set : PreparedSet) (path : String)
    (p : Progress τ) : Logged (Except RenameError (Progress τ)) := do
  match ← FileTree.load p.tree path with
  | none =>
    Logged.tell .debug target "Skipping unreadable file" [("file_path", .text path)]
    return .ok p
  | some bytes =>
    match String.fromUTF8? bytes with
    | none =>
      Logged.tell .debug target "Skipping non UTF-8 file" [("file_path", .text path)]
      return .ok p
    | some source => m.applyToSource set path source.toList p

/-- A file without text is passed over. -/
theorem applyToFile_value {τ : Type} [FileTree τ] (m : Migration) (set : PreparedSet)
    (path : String) (p : Progress τ) :
    (m.applyToFile set path p).value =
      match (FileTree.read p.tree path).bind String.fromUTF8? with
      | none => .ok p
      | some source => (m.applyToSource set path source.toList p).value := by
  rw [applyToFile, Logged.value_bind, FileTree.value_load]
  cases FileTree.read p.tree path with
  | none => rfl
  | some bytes =>
    simp only [Option.bind_some]
    cases String.fromUTF8? bytes <;> rfl

/-- Applies a change set to files, one after another. -/
def applyToFiles {τ : Type} [FileTree τ] (m : Migration) (set : PreparedSet) :
    List String → Progress τ → Logged (Except RenameError (Progress τ))
  | [], p => pure (.ok p)
  | path :: paths, p =>
    (m.applyToFile set path p).andThen fun p => m.applyToFiles set paths p

/-- The work of applying a change set. -/
def spanOf (set : PreparedSet) : Span :=
  ⟨.debug, target, "change_set",
    [("category", .text set.category), ("change_set", .text set.label)]⟩

/-- Applies a change set to the files that it selects.  They are settled before the first of them is
changed. -/
def apply {τ : Type} [FileTree τ] (m : Migration) (set : PreparedSet) (p : Progress τ) :
    Logged (Except RenameError (Progress τ)) :=
  Logged.within (spanOf set) do
    let paths := set.selector.select p.tree
    Logged.tell .debug target "Selected files" [("selected", .number paths.length)]
    m.applyToFiles set paths p

/-- Applies change sets, one after another. -/
def applyAllSets {τ : Type} [FileTree τ] (m : Migration) :
    List PreparedSet → Progress τ → Logged (Except RenameError (Progress τ))
  | [], p => pure (.ok p)
  | set :: sets, p => (m.apply set p).andThen fun p => m.applyAllSets sets p

/-- The end of a migration whose rule set is refused. -/
def refuse {τ : Type} (m : Migration) (tree : τ) (e : MigrationError) :
    Logged (Except RenameError (Progress τ)) := do
  let path := m.config.ruleSetPath
  Logged.tell .error target ("Invalid " ++ path)
    [("path", .text path), ("error", .text e.message)]
  return .ok ⟨tree, .ofOutcome (.invalidRuleSet e.message)⟩

/-- Applies the change sets of a rule set that has been accepted. -/
def runPrepared {τ : Type} [FileTree τ] (m : Migration) (tree : τ) (sets : List PreparedSet) :
    Logged (Except RenameError (Progress τ)) := do
  Logged.tell .info target "Applying API changes" [("change_sets", .number sets.length)]
  match ← m.applyAllSets sets ⟨tree, .ofOutcome .completed⟩ with
  | .error e => return .error e
  | .ok p =>
    Logged.tell .info target "API migration complete"
      [("modified", .number p.report.modifiedFiles.length),
        ("issues", .number p.report.issues.length)]
    return .ok p

/-- The whole migration of a tree. -/
def run {τ : Type} [FileTree τ] (m : Migration) (tree : τ) :
    Logged (Except RenameError (Progress τ)) := do
  let path := m.config.ruleSetPath
  match ← m.loadRuleSet tree with
  | .error e => m.refuse tree e
  | .ok none =>
    Logged.tell .info target ("No " ++ path ++ " found; skipping API migration")
      [("path", .text path)]
    return .ok ⟨tree, .ofOutcome .noRuleSet⟩
  | .ok (some r) =>
    match ← m.prepare r with
    | .error e => m.refuse tree e
    | .ok sets => m.runPrepared tree sets

end Migration

end Codemod
