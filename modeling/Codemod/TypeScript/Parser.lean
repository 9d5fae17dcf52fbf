import Codemod.TypeScript.Parser.Modules

/-!
# Parsing a source

The rules of the grammar are closed by fuel.  Between two tokens the rules call each other only a
bounded number of times, so fuel in proportion to the length of the source is never used up.

## Main definitions

* `Dialect` — what the name of a file tells about its contents.
* `parse?` — the identifiers and comments of a source, or `none` if it has a syntax error that the
  parser does not tolerate.
-/

namespace Codemod.TypeScript

/-- One step of each rule. -/
def step (g : Grammar) : Grammar
  | .assign => assignRule g
  | .unary => unaryRule g
  | .operators left level => operatorsRule g left level
  | .member afterNew => memberRule g afterNew
  | .leftHand => leftHandRule g
  | .suffixes base noCall noBrackets => suffixesRule g base noCall noBrackets
  | .type => typeRule g
  | .plainType => plainType g
  | .pattern => bindingPattern g
  | .decorator => decoratorRule g
  | .statement declarations => statementRule g declarations
  | .moduleItem => moduleItemRule g
  | .jsxElement => jsxElementRule g

/-- The rules of the grammar, nested at most as deep as the fuel. -/
def grammar : Nat → Grammar
  | 0 => fun _ => fail
  | fuel + 1 => fun goal => step (grammar fuel) goal

/-- The dialect of a source. -/
structure Dialect where
  /-- Whether tags may stand among expressions. -/
  tsx : Bool
  /-- Whether the source only declares. -/
  declares : Bool
  deriving DecidableEq, Repr, Inhabited

/-- What is kept of a parsed source. -/
structure Tree where
  /-- The identifiers, in the order of the tree. -/
  identifiers : List Occurrence
  /-- The comments, in the order of the source. -/
  comments : List Comment
  deriving DecidableEq, Repr, Inhabited

/-- All items of a module. -/
def moduleRule (fuel : Nat) : Parser Names :=
  namesWhile (do return (← curKind) != .eof) (grammar fuel .moduleItem)

/-- Parses a source.  A byte order mark at its start is no part of it, so offsets count from after
the mark. -/
def parse? (dialect : Dialect) (source : List Char) : Option Tree :=
  let text :=
    match source with
    | c :: rest => if c.toNat = 0xFEFF then rest else source
    | [] => []
  let size := text.length
  let ctx : Context :=
    { tsx := dialect.tsx, bound := size + 2, inDeclare := dialect.declares, topLevel := true }
  let start : State := ⟨lexFirst ⟨text, 0⟩, [], none⟩
  match moduleRule (20 * size + 100) ctx start with
  | .ok names s => some ⟨names.toList, s.comments.reverse ++ s.tok.comments⟩
  | .error _ _ => none

end Codemod.TypeScript
