import Codemod.Edit
import Codemod.Replacement
import Codemod.Syntax

/-!
# Renaming identifiers

A batch of rules is turned into edits of one source: one for every identifier that is renamed and
one for every comment that speaks of it.

## Main definitions

* `identifierEdits`, `commentEdits` — the edits of identifiers and of comments.
* `renameEdits` — both, after the source has been parsed.
* `rename` — the source with all edits applied.
-/

namespace Codemod

open Codemod.Syntax

/-- Why a source is not renamed. -/
inductive RenameError
  /-- The source cannot be parsed. -/
  | parse (path message : String)
  /-- A comment's offsets are no places of the source. -/
  | badComment
  | edit (e : EditError)
  deriving DecidableEq, Repr, Inhabited

/-- A failure as a cause of a failed migration.  Comments that are no part of the source are none:
whoever gives them breaks a promise, and nothing can be said about the file. -/
def RenameError.toMigrationError? : RenameError → Option MigrationError
  | parse path message => some (.parse path message)
  | badComment => none
  | edit e => some e.toMigrationError

/-- The new name of an identifier: that of the first rule for it. -/
def newName? (rules : List Rule) (name : List Char) : Option (List Char) :=
  (rules.find? fun r => r.identifier? = some name).map Rule.new

/-- The edit of an identifier, if it is renamed and spelt in the source as it is named. -/
def identifierEdit? (rules : List Rule) (source : List Char) (i : Identifier) : Option Edit :=
  let name := i.name.toList
  let stop := i.start + Text.blen name
  match newName? rules name with
  | none => none
  | some new =>
    if Text.slice? i.start stop source = some name then some ⟨i.start, stop, new, .identifier⟩
    else none

/-- The edits of all identifiers that are renamed. -/
def identifierEdits (rules : List Rule) (source : List Char) (ids : List Identifier) : List Edit :=
  ids.filterMap (identifierEdit? rules source)

/-- The rules of a batch that rename identifiers. -/
def identifierRules (rules : List Rule) : List Rule := rules.filter fun r => r.identifier?.isSome

/-- The text of a comment with identifiers renamed in it, by one rule after another. -/
def renameText (rules : List Rule) (text : List Char) : List Char :=
  (identifierRules rules).foldl (fun t r => replaceWords r.old r.new t) text

/-- The edit of a comment, if it speaks of a renamed identifier; fails if its offsets are no places
of the source. -/
def commentEdit (rules : List Rule) (source : List Char) (c : CommentSpan) :
    Option (Option Edit) :=
  (c.text? source).map fun text =>
    let new := renameText rules text
    if new = text then none else some ⟨c.start, c.stop, new, .comment⟩

/-- The edits of comments in their order. -/
def commentEditsOf (rules : List Rule) (source : List Char) : List CommentSpan → Option (List Edit)
  | [] => some []
  | c :: cs => do
    let e ← commentEdit rules source c
    let es ← commentEditsOf rules source cs
    return e.toList ++ es

/-- The edits of all comments that speak of renamed identifiers.  Comments are not looked at when no
rule renames an identifier. -/
def commentEdits (rules : List Rule) (source : List Char) (cs : List CommentSpan) :
    Option (List Edit) :=
  if (identifierRules rules).isEmpty then some [] else commentEditsOf rules source cs

/-- The part of the engine that plans edits. -/
def renameTarget : String := "apishift_ast::rename"

/-- The edits of a source for a batch of rules.  Nothing is parsed when no rule renames an
identifier. -/
def renameEdits (provider : Provider) (path : String) (source : List Char) (rules : List Rule) :
    Logged (Except RenameError (List Edit)) :=
  if (identifierRules rules).isEmpty then pure (.ok [])
  else
    match provider path source with
    | .error message => pure (.error (.parse path message))
    | .ok tree =>
      let ids := identifierEdits rules source tree.identifiers
      match commentEdits rules source tree.comments with
      | none => pure (.error .badComment)
      | some comments => do
        Logged.tell .debug renameTarget "Planned rename edits"
          [("file_path", .text path), ("identifier_edits", .number ids.length),
            ("comment_edits", .number comments.length)]
        return .ok (ids ++ comments)

/-- The part of the engine that changes contents. -/
def contentTarget : String := "apishift_services::services::content"

/-- Renames the identifiers of a source for a batch of rules. -/
def rename (provider : Provider) (path : String) (source : List Char) (rules : List Rule) :
    Logged (Except RenameError (List Char)) :=
  (renameEdits provider path source rules).andThen fun edits =>
    if edits.isEmpty then pure (.ok source)
    else do
      match ← applyEdits source edits with
      | .error e => return .error (.edit e)
      | .ok result =>
        let s := result.statistics
        Logged.tell .debug contentTarget "Applied rename edits"
          [("file_path", .text path), ("applied", .number s.appliedCount),
            ("duplicates", .number s.duplicateCount), ("lines_added", .number s.linesAdded),
            ("lines_removed", .number s.linesRemoved),
            ("characters_added", .number s.charactersAdded),
            ("characters_removed", .number s.charactersRemoved)]
        return .ok result.source

end Codemod
