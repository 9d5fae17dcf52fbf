import Codemod.Json.Value
import Codemod.Transform

/-!
# Reports

## Main definitions

* `Outcome`, `FileChange`, `FileIssue`, `Report` — what a migration did.
* `Report.modifiedFiles` — the files that were changed.
* `Report.summary` — a report in a line.
* `Report.toValue` — a report as a document.
-/

namespace Codemod

/-- The name of a strategy. -/
def Strategy.name : Strategy → String
  | .code => "code"
  | .markup => "markup"
  | .text => "text"

/-- How a migration ended. -/
inductive Outcome
  /-- There is no rule set, and nothing to do. -/
  | noRuleSet
  /-- The rule set is refused, and nothing was done. -/
  | invalidRuleSet (message : String)
  /-- All change sets were applied. -/
  | completed
  deriving DecidableEq, Repr, Inhabited

/-- A file that a change set changed. -/
structure FileChange where
  path : String
  category : String
  changeSet : String
  strategy : Strategy
  deriving DecidableEq, Repr, Inhabited

/-- A file that a change set could not be applied to. -/
structure FileIssue where
  path : String
  changeSet : String
  reason : String
  deriving DecidableEq, Repr, Inhabited

/-- What a migration did. -/
structure Report where
  outcome : Outcome
  changes : List FileChange
  issues : List FileIssue
  deriving DecidableEq, Repr, Inhabited

namespace Report

/-- A report without changes. -/
def ofOutcome (o : Outcome) : Report := ⟨o, [], []⟩

/-- A report with a further change. -/
def addChange (r : Report) (c : FileChange) : Report := { r with changes := r.changes ++ [c] }

/-- A report with a further issue. -/
def addIssue (r : Report) (i : FileIssue) : Report := { r with issues := r.issues ++ [i] }

/-- `r.isInvalid` tells whether the rule set was refused. -/
def isInvalid (r : Report) : Bool :=
  match r.outcome with
  | .invalidRuleSet _ => true
  | _ => false

/-- Paths without repetitions, in the order of their first occurrence. -/
def distinct (paths : List String) : List String :=
  paths.foldl (fun seen p => if p ∈ seen then seen else seen ++ [p]) []

theorem nodup_distinct (paths : List String) : (distinct paths).Nodup := by
  have hfold : ∀ (paths seen : List String), seen.Nodup →
      (paths.foldl (fun seen p => if p ∈ seen then seen else seen ++ [p]) seen).Nodup := by
    intro paths
    induction paths with
    | nil => exact fun _ h => h
    | cons p paths ih =>
      intro seen h
      refine ih _ ?_
      by_cases hp : p ∈ seen
      · simpa [hp] using h
      · simp only [hp, if_false, List.nodup_append]
        refine ⟨h, by simp, fun a ha b hb => ?_⟩
        rw [List.mem_singleton] at hb
        rintro rfl
        exact hp (hb ▸ ha)
  exact hfold paths [] List.nodup_nil

/-- The files that were changed, in the order of their first change. -/
def modifiedFiles (r : Report) : List String := distinct (r.changes.map FileChange.path)

/-- A report in a line. -/
def summary (r : Report) : String :=
  match r.outcome with
  | .noRuleSet => "No rule-set found; nothing to migrate"
  | .invalidRuleSet message => "Invalid rule-set, no files modified: " ++ message
  | .completed =>
    "Modified " ++ toString r.modifiedFiles.length ++ " file(s) with " ++
      toString r.changes.length ++ " change(s); " ++ toString r.issues.length ++
      " file(s) skipped"

/-- The outcome as a document. -/
def outcomeValue : Outcome → Json.Value
  | .noRuleSet => .object [("status", .string "noRuleSet")]
  | .invalidRuleSet message =>
    .object [("status", .string "invalidRuleSet"), ("message", .string message)]
  | .completed => .object [("status", .string "completed")]

/-- A change as a document. -/
def changeValue (c : FileChange) : Json.Value :=
  .object [("path", .string c.path), ("category", .string c.category),
    ("changeSet", .string c.changeSet), ("strategy", .string c.strategy.name)]

/-- An issue as a document. -/
def issueValue (i : FileIssue) : Json.Value :=
  .object [("path", .string i.path), ("changeSet", .string i.changeSet),
    ("reason", .string i.reason)]

/-- A report as a document. -/
def toValue (r : Report) : Json.Value :=
  .object [("outcome", outcomeValue r.outcome), ("changes", .array (r.changes.map changeValue)),
    ("issues", .array (r.issues.map issueValue))]

end Report

end Codemod
