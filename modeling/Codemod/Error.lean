import Codemod.Regex.Pattern

/-!
# What can go wrong in a migration

## Main definitions

* `MigrationError` — the causes.
* `MigrationError.message` — the words for a cause.
* `MigrationError.isRuleSetError` — whether the cause makes the rule set unusable.
-/

namespace Codemod

/-- Why a migration, or a part of it, fails. -/
inductive MigrationError
  /-- The rule set does not have the structure of one. -/
  | ruleSetInvalid (message : String)
  /-- The configuration cannot be used. -/
  | config (message : String)
  /-- A file pattern is no glob. -/
  | pattern (pattern message : String)
  /-- A replacement's regular expression is refused. -/
  | regex (pattern : String) (reason : Regex.Failure)
  /-- A source cannot be parsed. -/
  | parse (path message : String)
  /-- Two edits touch the same text. -/
  | editConflict (message : String)
  /-- A file cannot be read or written. -/
  | io (message : String)
  /-- A document is no JSON. -/
  | json (message : String)
  /-- The engine contradicts itself. -/
  | internal (message : String)
  deriving DecidableEq, Repr, Inhabited

namespace MigrationError

/-- The words for a cause. -/
def message : MigrationError → String
  | ruleSetInvalid m => "Invalid rule-set: " ++ m
  | config m => "Configuration error: " ++ m
  | pattern p m => "Invalid file pattern '" ++ p ++ "': " ++ m
  | regex p reason => "Invalid replacement regex '" ++ p ++ "': " ++ reason.message
  | parse path m => "Parse error in " ++ path ++ ": " ++ m
  | editConflict m => "Edit conflict: " ++ m
  | io m => "I/O error: " ++ m
  | json m => "JSON serialization/deserialization error: " ++ m
  | internal m => "Internal error: " ++ m

/-- `e.isRuleSetError` tells whether the cause `e` makes the rule set unusable.  Then nothing of it
is applied. -/
def isRuleSetError : MigrationError → Bool
  | ruleSetInvalid _ | pattern _ _ | regex _ _ | json _ => true
  | _ => false

end MigrationError

end Codemod
