import Codemod.Text.Bytes
import Codemod.Text.Quoted
import Codemod.Error
import Codemod.Log

/-!
# Edits

An edit replaces the bytes between two offsets of a source.  A list of edits is applied as a whole:
edits that are the same are made once, and edits that touch each other and differ are refused.

## Main definitions

* `Edit` — a replacement of the text between two offsets.
* `Edit.overlaps`, `Edit.sameEffect` — how two edits stand to each other.
* `EditError` — why edits are refused.
* `applyEdits` — applies edits to a source.
-/

namespace Codemod

/-- Where an edit comes from. -/
inductive EditOrigin
  | identifier
  | comment
  deriving DecidableEq, Repr, Inhabited

/-- The replacement of the text between two offsets. -/
structure Edit where
  start : Nat
  stop : Nat
  text : List Char
  origin : EditOrigin
  deriving DecidableEq, Repr, Inhabited

namespace Edit

/-- `a.sameEffect b` tells whether the edits `a` and `b` replace the same text by the same text. -/
def sameEffect (a b : Edit) : Bool := a.start = b.start && a.stop = b.stop && a.text = b.text

/-- `a.overlaps b` tells whether the edits `a` and `b` touch the same text.  Two insertions at one
place do, since their order is not given. -/
def overlaps (a b : Edit) : Bool :=
  a.start = b.start || (a.start < b.stop && b.start < a.stop)

/-- An edit in words. -/
def render (e : Edit) : String :=
  let origin := match e.origin with | .identifier => "Identifier" | .comment => "Comment"
  origin ++ " edit " ++ toString e.start ++ ".." ++ toString e.stop ++ " -> " ++
    String.ofList (Text.quote e.text)

/-- `e.isValid source` tells whether the offsets of `e` are places of `source`, in order. -/
def isValid (e : Edit) (source : List Char) : Bool := (Text.slice? e.start e.stop source).isSome

end Edit

/-- Why edits are refused. -/
inductive EditError
  | conflict (first second : Edit)
  | outOfBounds (start stop length : Nat)
  deriving DecidableEq, Repr, Inhabited

namespace EditError

/-- The words for a refusal. -/
def message : EditError → String
  | conflict first second =>
    "Overlapping edits: " ++ first.render ++ " conflicts with " ++ second.render
  | outOfBounds start stop length =>
    "Edit " ++ toString start ++ ".." ++ toString stop ++ " is outside the source (" ++
      toString length ++ " bytes) or splits a character"

/-- A refusal as a cause of a failed migration. -/
def toMigrationError (e : EditError) : MigrationError :=
  match e with
  | conflict _ _ => .editConflict e.message
  | outOfBounds _ _ _ => .internal e.message

end EditError

/-- What applying edits did. -/
structure EditStatistics where
  totalEdits : Nat
  appliedCount : Nat
  duplicateCount : Nat
  linesAdded : Nat
  linesRemoved : Nat
  /-- In bytes. -/
  charactersAdded : Nat
  /-- In bytes. -/
  charactersRemoved : Nat
  deriving DecidableEq, Repr, Inhabited

/-- A source after edits. -/
structure EditResult where
  source : List Char
  /-- The edits made, the last one of the source first. -/
  applied : List Edit
  statistics : EditStatistics
  deriving DecidableEq, Repr, Inhabited

/-- The part of the engine that applies edits. -/
def editTarget : String := "apishift_ast::transformer"

/-- The first edit whose offsets are no places of the source. -/
def firstInvalid? (source : List Char) (edits : List Edit) : Option Edit :=
  edits.find? fun e => !e.isValid source

/-- Adds edits to those kept so far.  An edit with the same effect as one kept is dropped, and an
edit that overlaps one kept is refused. -/
def dedupInto (kept : List Edit) : List Edit → Logged (Except EditError (List Edit))
  | [] => pure (.ok kept)
  | e :: es =>
    if kept.any (·.sameEffect e) then do
      Logged.tell .debug editTarget "Skipping exact duplicate edit" [("edit", .text e.render)]
      dedupInto kept es
    else
      match kept.find? (·.overlaps e) with
      | some k => do
        Logged.tell .warn editTarget "Found overlapping edits"
          [("existing", .text k.render), ("conflicting", .text e.render)]
        return .error (.conflict k e)
      | none => dedupInto (kept ++ [e]) es

/-- Replaces the text of one edit; the source as it is if the edit has no place in it. -/
def splice (source : List Char) (e : Edit) : List Char :=
  match Text.cut? e.start source, Text.cut? e.stop source with
  | some (before, _), some (_, after) => before ++ e.text ++ after
  | _, _ => source

/-- The number of line feeds in a text. -/
def lineCount (cs : List Char) : Nat := cs.count '\n'

/-- The text that an edit removes from a source. -/
def removedText (source : List Char) (e : Edit) : List Char :=
  (Text.slice? e.start e.stop source).getD []

/-- A count over edits. -/
def countOver (count : Edit → Nat) (es : List Edit) : Nat := es.foldr (fun e n => count e + n) 0

/-- What applying these edits to a source does. -/
def statisticsOf (source : List Char) (total : Nat) (applied : List Edit) : EditStatistics :=
  { totalEdits := total
    appliedCount := applied.length
    duplicateCount := total - applied.length
    linesAdded := countOver (fun e => lineCount e.text) applied
    linesRemoved := countOver (fun e => lineCount (removedText source e)) applied
    charactersAdded := countOver (fun e => Text.blen e.text) applied
    charactersRemoved := countOver (fun e => Text.blen (removedText source e)) applied }

/-- Applies edits that were all made for this source.  They are spliced in from the last to the
first, so that the offsets of those still to come stay right. -/
def applyEdits (source : List Char) (edits : List Edit) : Logged (Except EditError EditResult) :=
  match firstInvalid? source edits with
  | some e => pure (.error (.outOfBounds e.start e.stop (Text.blen source)))
  | none =>
    (dedupInto [] edits).andThen fun kept => do
      let applied := kept.mergeSort fun a b => b.start ≤ a.start
      let statistics := statisticsOf source edits.length applied
      Logged.tell .trace editTarget "Applied edits"
        [("applied", .number statistics.appliedCount),
          ("duplicates", .number statistics.duplicateCount)]
      return .ok ⟨applied.foldl splice source, applied, statistics⟩

end Codemod
