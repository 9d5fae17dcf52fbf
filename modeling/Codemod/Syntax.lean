import Codemod.Text.Bytes
import Codemod.TypeScript.Parser

/-!
# What a migration sees of a source's syntax

The engine looks at a source through its identifiers and its comments only, and it takes them from
any `Provider`: the one for TypeScript, or a table.

## Main definitions

* `Identifier`, `CommentSpan`, `Tree` — identifiers and comments with their places.
* `Provider` — how a source is read; it may fail to parse.
* `typeScript` — the provider that parses TypeScript.
-/

namespace Codemod.Syntax

/-- An identifier at a place of the source. -/
structure Identifier where
  name : String
  start : Nat
  deriving DecidableEq, Repr, Inhabited

/-- The two forms of a comment. -/
abbrev CommentKind := TypeScript.CommentKind

/-- A comment at a place of the source, its delimiters included. -/
structure CommentSpan where
  start : Nat
  stop : Nat
  kind : CommentKind
  deriving DecidableEq, Repr, Inhabited

/-- The identifiers and comments of a source. -/
structure Tree where
  identifiers : List Identifier
  comments : List CommentSpan
  deriving DecidableEq, Repr, Inhabited

/-- Reads a source of a given path, or says why it cannot be parsed. -/
abbrev Provider := (path : String) → (source : List Char) → Except String Tree

/-- The text of a comment; `none` if its offsets are no places of the source in order. -/
def CommentSpan.text? (c : CommentSpan) (source : List Char) : Option (List Char) :=
  Text.slice? c.start c.stop source

/-! ### TypeScript -/

/-- A path in lower case, as far as ASCII goes. -/
def lowerPath (path : String) : List Char := path.toList.map Char.toLower

/-- The dialect that a path names by its ending. -/
def dialectOf (path : String) : TypeScript.Dialect :=
  { tsx := ".tsx".toList.isSuffixOf (lowerPath path)
    declares := ".d.ts".toList.isSuffixOf (lowerPath path) }

/-- Comments in the order of their places, each once. -/
def orderedComments (cs : List CommentSpan) : List CommentSpan :=
  let sorted := cs.mergeSort fun a b => a.start ≤ b.start
  sorted.foldr (fun c rest => if rest.head? = some c then rest else c :: rest) []

/-- What is said of a source that is no TypeScript. -/
def typeScriptRefusal : String := "syntax error"

/-- Reads TypeScript. -/
def typeScript : Provider := fun path source =>
  match TypeScript.parse? (dialectOf path) source with
  | none => .error typeScriptRefusal
  | some t => .ok
    { identifiers := t.identifiers.map fun o => ⟨o.name, o.start⟩
      comments := orderedComments (t.comments.map fun c => ⟨c.start, c.stop, c.kind⟩) }

end Codemod.Syntax
