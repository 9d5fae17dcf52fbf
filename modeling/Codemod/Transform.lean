import Codemod.Rename

/-!
# New contents

What happens to the contents of a file is decided from its path.  In code, identifiers are renamed
through the syntax tree; in anything else the text is taken as it is.

## Main definitions

* `FileKind`, `FileKind.ofPath` — what a file holds.
* `transformCode` — code after rules.
* `transform` — the contents of any file after the rules of a change set.
-/

namespace Codemod

open Codemod.Syntax

/-- What a file holds. -/
inductive FileKind
  | code | markup | other
  deriving DecidableEq, Repr, Inhabited

/-- `hasExtension path extensions` tells whether `path` ends in one of `extensions`, small and
capital letters alike. -/
def hasExtension (path : String) (extensions : List String) : Bool :=
  let lower := path.toList.map Char.toLower
  extensions.any fun e => e.toList.isSuffixOf lower

/-- What a file holds, told from its path. -/
def FileKind.ofPath (path : String) : FileKind :=
  if hasExtension path [".ts", ".tsx", ".mts", ".cts"] then .code
  else if hasExtension path [".html", ".htm"] then .markup
  else .other

/-- How the contents of a file were changed. -/
inductive Strategy
  | code | markup | text
  deriving DecidableEq, Repr, Inhabited

/-- The rules of a change set. -/
structure RulePair where
  rules : List Rule
  /-- The rules that take the place of the others in markup, if there are any. -/
  markupRules : List Rule
  deriving Inhabited

/-- The contents of a file after rules. -/
structure Transformed where
  content : List Char
  strategy : Strategy
  deriving DecidableEq, Repr, Inhabited

/-- `isChained batch r` tells whether the rule `r` speaks of a name that `batch` renames or brings
in. -/
def isChained (batch : List Rule) (r : Rule) : Bool :=
  batch.any fun b => b.old = r.old || b.new = r.old

/-- Renames by a batch that is empty when nothing waits. -/
def renameBatch (provider : Provider) (path : String) (source : List Char) (batch : List Rule) :
    Logged (Except RenameError (List Char)) :=
  if batch.isEmpty then pure (.ok source) else rename provider path source batch

/-- Applies rules to code while a batch of renamings waits.  Renamings that follow each other share
one parse; one that speaks of a name of the batch starts a new batch, so that it sees the names that
the batch brings in, and any other rule is a barrier. -/
def transformCodeFrom (provider : Provider) (path : String) :
    (source : List Char) → (batch : List Rule) → List Rule → Logged (Except RenameError (List Char))
  | source, batch, [] => renameBatch provider path source batch
  | source, batch, r :: rs =>
    if r.identifier?.isSome then
      if isChained batch r then
        (renameBatch provider path source batch).andThen fun text =>
          transformCodeFrom provider path text [r] rs
      else transformCodeFrom provider path source (batch ++ [r]) rs
    else
      (renameBatch provider path source batch).andThen fun text =>
        transformCodeFrom provider path (r.applyToText text) [] rs

/-- Code after rules. -/
def transformCode (provider : Provider) (path : String) (source : List Char) (rules : List Rule) :
    Logged (Except RenameError (List Char)) :=
  transformCodeFrom provider path source [] rules

/-- How the contents of a file are changed. -/
def strategyOf (path : String) (rules : RulePair) : Strategy :=
  match FileKind.ofPath path with
  | .code => .code
  | .markup => if rules.markupRules.isEmpty then .text else .markup
  | .other => .text

/-- The contents of a file after the rules of a change set. -/
def transform (provider : Provider) (path : String) (source : List Char) (rules : RulePair) :
    Logged (Except RenameError Transformed) :=
  match strategyOf path rules with
  | .code =>
    (transformCode provider path source rules.rules).andThen fun text => pure (.ok ⟨text, .code⟩)
  | .markup => pure (.ok ⟨applyAll rules.markupRules source, .markup⟩)
  | .text => pure (.ok ⟨applyAll rules.rules source, .text⟩)

end Codemod
