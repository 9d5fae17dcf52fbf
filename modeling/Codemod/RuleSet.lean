import Codemod.Json.Reader
import Codemod.Json.Value
import Codemod.Text.Property
import Codemod.Transform

/-!
# Rule sets

A rule set is a document of categories, each with change sets.  A change set names files by patterns
and gives the replacements for them.  A document is accepted as a whole or not at all.

## Main definitions

* `ChangeSet`, `RuleSet` — as they are declared.
* `ChangeSet.compile` — the rules of a change set, or why it is refused.
* `RuleSet.ofJson` — a rule set from a document.
* `RuleSet.toJson` — the document of a rule set.
-/

namespace Codemod

open Json

/-- What is to be replaced in which files. -/
structure ChangeSet where
  description : Option String
  filePatterns : List String
  replacements : List Replacement
  /-- The replacements that take the place of the others in markup. -/
  markupReplacements : Option (List Replacement)
  deriving DecidableEq, Repr, Inhabited

namespace ChangeSet

/-- The name of a change set in reports. -/
def label (s : ChangeSet) : String :=
  match s.description, s.filePatterns with
  | some d, _ => d
  | none, p :: _ => p
  | none, [] => "<unnamed change set>"

/-- `isBlankPattern p` tells whether the pattern `p` is nothing but blanks. -/
def isBlankPattern (p : String) : Bool := p.toList.all Text.isWhiteSpace

/-- The rules of a change set, or why it is refused. -/
def compile (regex : Regex.Compiler) (s : ChangeSet) : Except MigrationError RulePair :=
  if s.filePatterns.isEmpty then
    .error (.ruleSetInvalid ("change set '" ++ s.label ++ "' declares no file patterns"))
  else
    match s.filePatterns.find? isBlankPattern with
    | some p => .error (.pattern p "pattern is empty")
    | none => do
      let rules ← compileAll regex s.replacements
      let markupRules ← compileAll regex (s.markupReplacements.getD [])
      return ⟨rules, markupRules⟩

end ChangeSet

/-- The categories of a rule set in their order.  A category may be there without change sets. -/
structure RuleSet where
  entries : List (String × Option (List ChangeSet))
  deriving DecidableEq, Repr, Inhabited

namespace RuleSet

/-- The categories that have change sets. -/
def categories (r : RuleSet) : List (String × List ChangeSet) :=
  r.entries.filterMap fun e => e.2.map fun sets => (e.1, sets)

/-- All change sets with their categories. -/
def changeSets (r : RuleSet) : List (String × ChangeSet) :=
  r.categories.flatMap fun c => c.2.map fun s => (c.1, s)

/-- The number of change sets. -/
def size (r : RuleSet) : Nat := r.changeSets.length

/-- Sets a category: in its place if it is there, else at the end. -/
def insert (category : String) (sets : Option (List ChangeSet)) :
    List (String × Option (List ChangeSet)) → List (String × Option (List ChangeSet))
  | [] => [(category, sets)]
  | e :: es => if e.1 = category then (category, sets) :: es else e :: insert category sets es

/-! ### Reading -/

/-- The fields of a replacement that have been read. -/
structure ReplacementDraft where
  old : Option String := none
  new : Option String := none
  isRegex : Option Bool := none

/-- Reads a field that must not have been read before. -/
def once {α : Type} (name : String) (before : Option α) (read : Reader α) : Reader α := fun cs =>
  if before.isSome then .error (.duplicateField name)
  else do
    let (_, cs) ← readColon cs
    read cs

/-- A field that must have been read. -/
def required {α : Type} (name : String) (a : Option α) : Except Failure α :=
  match a with
  | some a => .ok a
  | none => .error (.missingField name)

/-- Passes over a field. -/
def skipField {σ : Type} (s : σ) : Reader σ := fun cs => do
  let (_, cs) ← readColon cs
  let (_, cs) ← skipValue cs
  return (s, cs)

/-- Reads a field of a replacement. -/
def replacementField (name : String) (d : ReplacementDraft) : Reader ReplacementDraft := fun cs =>
  if name = "from" then do
    let (s, cs) ← once "from" d.old readString cs
    return (⟨some s, d.new, d.isRegex⟩, cs)
  else if name = "to" then do
    let (s, cs) ← once "to" d.new readString cs
    return (⟨d.old, some s, d.isRegex⟩, cs)
  else if name = "regex" || name = "isRegex" then do
    let (b, cs) ← once "regex" d.isRegex readBool cs
    return (⟨d.old, d.new, some b⟩, cs)
  else skipField d cs

/-- Reads an item of a record written as a list. -/
def readPart {α : Type} (first : Bool) (read : Reader α) : Reader (Option α) := fun cs => do
  let (more, cs) ← nextItem first cs
  if more then
    let (a, cs) ← read cs
    return (some a, cs)
  else return (none, cs)

/-- An item of a record that the list must have. -/
def requiredPart {α : Type} (length : Nat) (wanted : String) (a : Option α) : Except Failure α :=
  match a with
  | some a => .ok a
  | none => .error (.invalidLength length wanted)

/-- Reads a replacement written as an object. -/
def replacementObject : Reader Replacement := fun cs => do
  let (d, cs) ← readFields replacementField (cs.length + 1) true {} cs
  let old ← required "from" d.old
  let new ← required "to" d.new
  let (_, cs) ← endObject cs
  return (⟨old, new, d.isRegex.getD false⟩, cs)

/-- Reads a replacement written as a list. -/
def replacementList : Reader Replacement := fun cs => do
  let wanted := "struct Replacement with 3 elements"
  let (old, cs) ← readPart true readString cs
  let old ← requiredPart 0 wanted old
  let (new, cs) ← readPart false readString cs
  let new ← requiredPart 1 wanted new
  let (isRegex, cs) ← readPart false readBool cs
  return (⟨old, new, isRegex.getD false⟩, cs)

/-- Reads a replacement. -/
def readReplacement : Reader Replacement :=
  readRecord "struct Replacement" replacementObject replacementList

/-- The fields of a change set that have been read. -/
structure ChangeSetDraft where
  description : Option (Option String) := none
  filePatterns : Option (List String) := none
  replacements : Option (List Replacement) := none
  markupReplacements : Option (Option (List Replacement)) := none

/-- Reads a field of a change set. -/
def changeSetField (name : String) (d : ChangeSetDraft) : Reader ChangeSetDraft := fun cs =>
  if name = "description" then do
    let (v, cs) ← once name d.description (readOption readString) cs
    return (⟨some v, d.filePatterns, d.replacements, d.markupReplacements⟩, cs)
  else if name = "filePatterns" then do
    let (v, cs) ← once name d.filePatterns (readList readString) cs
    return (⟨d.description, some v, d.replacements, d.markupReplacements⟩, cs)
  else if name = "replacements" then do
    let (v, cs) ← once name d.replacements (readList readReplacement) cs
    return (⟨d.description, d.filePatterns, some v, d.markupReplacements⟩, cs)
  else if name = "htmlReplacements" then do
    let (v, cs) ← once name d.markupReplacements (readOption (readList readReplacement)) cs
    return (⟨d.description, d.filePatterns, d.replacements, some v⟩, cs)
  else skipField d cs

/-- Reads a change set written as an object. -/
def changeSetObject : Reader ChangeSet := fun cs => do
  let (d, cs) ← readFields changeSetField (cs.length + 1) true {} cs
  let filePatterns ← required "filePatterns" d.filePatterns
  let (_, cs) ← endObject cs
  return (⟨d.description.getD none, filePatterns, d.replacements.getD [],
    d.markupReplacements.getD none⟩, cs)

/-- Reads a change set written as a list. -/
def changeSetList : Reader ChangeSet := fun cs => do
  let (description, cs) ← readPart true (readOption readString) cs
  let (filePatterns, cs) ← readPart description.isNone (readList readString) cs
  let filePatterns ← requiredPart 1 "struct ChangeSet with 4 elements" filePatterns
  let (replacements, cs) ← readPart false (readList readReplacement) cs
  let (markup, cs) ← readPart false (readOption (readList readReplacement)) cs
  return (⟨description.getD none, filePatterns, replacements.getD [], markup.getD none⟩, cs)

/-- Reads a change set. -/
def readChangeSet : Reader ChangeSet :=
  readRecord "struct ChangeSet" changeSetObject changeSetList

/-- Reads a category. -/
def categoryField (name : String) (es : List (String × Option (List ChangeSet))) :
    Reader (List (String × Option (List ChangeSet))) := fun cs => do
  let (_, cs) ← readColon cs
  let (sets, cs) ← readOption (readList readChangeSet) cs
  return (insert name sets es, cs)

/-- Reads a rule set. -/
def read : Reader RuleSet := fun cs =>
  match skipBlanks cs with
  | '\x7b' :: rest => (readObject categoryField [] rest).map fun p => (⟨p.1⟩, p.2)
  | rest => .error (refuse "a map" rest)

/-! ### Accepting -/

/-- A refusal of a document as a cause of a failed migration. -/
def refusal (e : Failure) : MigrationError :=
  if e.isData then
    .ruleSetInvalid ("expected an object mapping categories to change sets: " ++ e.message)
  else .json e.message

/-- Names the category in a refusal of one of its change sets. -/
def inCategory (category : String) : MigrationError → MigrationError
  | .ruleSetInvalid m => .ruleSetInvalid (category ++ ": " ++ m)
  | e => e

/-- The first reason why one of the change sets is refused. -/
def check (regex : Regex.Compiler) : List (String × ChangeSet) → Except MigrationError Unit
  | [] => .ok ()
  | (category, s) :: rest =>
    match s.compile regex with
    | .error e => .error (inCategory category e)
    | .ok _ => check regex rest

/-- A rule set from a document.  All of it is checked, so that no part of a document that is refused
is ever applied. -/
def ofJson (regex : Regex.Compiler) (text : String) : Except MigrationError RuleSet :=
  match readDocument read text.toList with
  | .error e => .error (refusal e)
  | .ok r => do
    check regex r.changeSets
    return r

/-! ### Writing -/

/-- The document of a replacement. -/
def replacementValue (r : Replacement) : Value :=
  .object [("from", .string r.old), ("to", .string r.new), ("regex", .bool r.isRegex)]

/-- The document of replacements. -/
def replacementsValue (rs : List Replacement) : Value := .array (rs.map replacementValue)

/-- The document of a change set. -/
def changeSetValue (s : ChangeSet) : Value :=
  .object ((s.description.map fun d => ("description", Value.string d)).toList ++
    [("filePatterns", .array (s.filePatterns.map Value.string)),
      ("replacements", replacementsValue s.replacements)] ++
    (s.markupReplacements.map fun rs => ("htmlReplacements", replacementsValue rs)).toList)

/-- The document of a category. -/
def categoryValue (sets : Option (List ChangeSet)) : Value :=
  match sets with
  | some sets => .array (sets.map changeSetValue)
  | none => .null

/-- The document of a rule set. -/
def toValue (r : RuleSet) : Value := .object (r.entries.map fun e => (e.1, categoryValue e.2))

/-- The text of the document of a rule set. -/
def toJson (r : RuleSet) : String := String.ofList r.toValue.compact

end RuleSet

end Codemod
