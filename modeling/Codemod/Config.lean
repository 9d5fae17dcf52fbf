import Codemod.Error
import Codemod.Naming
import Codemod.Text.Property

/-!
# Configuration

## Main definitions

* `Config` — the settings of a migration, and their defaults.
* `Config.validate` — why settings cannot be used.
-/

namespace Codemod

/-- How events are written. -/
inductive LogFormat
  | pretty | json
  deriving DecidableEq, Repr, Inhabited

/-- The settings of a migration. -/
structure Config where
  /-- What the paths of files that may be changed start with. -/
  scopeRoots : List String := ["src/app/", "src/lib/"]
  /-- The path of the rule set in the tree. -/
  ruleSetPath : String := "api-changes.json"
  /-- The path of a rule set that is read when the tree has none. -/
  ruleSetFile : Option String := none
  naming : Naming :=
    { segments :=
        ["component", "directive", "service", "pipe", "module", "model", "interface"]
      removable := ["component", "directive", "service", "model", "interface"] }
  logLevel : String := "info"
  logFormat : LogFormat := .pretty
  deriving DecidableEq, Repr, Inhabited

namespace Config

/-- The names of levels that may be configured. -/
def levelNames : List String := ["trace", "debug", "info", "warn", "error"]

/-- `isBlankText s` tells whether `s` is nothing but blanks. -/
def isBlankText (s : String) : Bool := s.toList.all Text.isWhiteSpace

/-- The first reason why settings cannot be used. -/
def validate (c : Config) : Except MigrationError Unit :=
  if c.scopeRoots.isEmpty then .error (.config "At least one scope root must be configured")
  else if isBlankText c.ruleSetPath then .error (.config "Rule-set path cannot be empty")
  else
    match c.naming.removable.find? fun s => !c.naming.segments.contains s with
    | some s => .error (.config ("Removable segment '" ++ s ++ "' is not a known segment"))
    | none =>
      if levelNames.contains c.logLevel then .ok ()
      else
        .error (.config ("Invalid log level '" ++ c.logLevel ++ "', must be one of: " ++
          ", ".intercalate levelNames))

end Config

end Codemod
