import Codemod.Error
import Codemod.Glob
import Codemod.Path
import Codemod.Tree

/-!
# Selecting files

A change set is only applied to files below a scope root that one of its patterns names.

## Main definitions

* `Selector` — scope roots and globs.
* `Selector.ofPatterns` — a selector, unless a pattern is no glob.
* `Selector.inScope`, `Selector.isMatched`, `Selector.selects` — the tests of a path.
* `Selector.select` — the selected paths of a tree.
-/

namespace Codemod

/-- Scope roots and globs. -/
structure Selector where
  /-- What the paths in scope start with. -/
  roots : List (List Char)
  globs : List Glob
  deriving DecidableEq, Repr, Inhabited

namespace Selector

/-- What the paths below a scope root start with. -/
def scopeStart (root : String) : List Char :=
  let cs := Path.stripChars root.toList
  if cs.isEmpty || cs.getLast? = some '/' then cs else cs ++ ['/']

/-- The globs of patterns; the first that is none is the answer. -/
def globsOf : List String → Except MigrationError (List Glob)
  | [] => .ok []
  | p :: ps => do
    let stripped := Path.strip p
    let glob ← match Glob.parse stripped.toList with
      | .ok g => pure g
      | .error e => throw (MigrationError.pattern stripped e.message)
    let globs ← globsOf ps
    return glob :: globs

/-- A selector, unless a pattern is no glob. -/
def ofPatterns (roots patterns : List String) : Except MigrationError Selector := do
  let globs ← globsOf patterns
  return ⟨roots.map scopeStart, globs⟩

/-- `s.inScope path` tells whether `path` is below a scope root. -/
def inScope (s : Selector) (path : String) : Bool :=
  s.roots.any fun root => root.isPrefixOf (Path.stripChars path.toList)

/-- `s.isMatched path` tells whether a pattern of `s` names `path`. -/
def isMatched (s : Selector) (path : String) : Bool :=
  s.globs.any fun g => g.accepts (Path.stripChars path.toList)

/-- `s.selects path` tells whether `path` is selected. -/
def selects (s : Selector) (path : String) : Bool := s.inScope path && s.isMatched path

/-- The selected paths of a tree, in the order of the tree. -/
def select {τ : Type} [FileTree τ] (s : Selector) (tree : τ) : List String :=
  (FileTree.paths tree).filter s.selects

end Selector

end Codemod
