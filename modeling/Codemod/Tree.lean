import Codemod.Error
import Codemod.Log

/-!
# Trees of files

A migration reads files of a tree and writes them back.  It neither makes nor removes files.

## Main definitions

* `FileTree` — what a migration needs of a tree.
* `FileTree.read` — the contents of a file.
-/

namespace Codemod

/-- What a migration needs of a tree. -/
class FileTree (τ : Type) where
  /-- Reads the file of a path. -/
  load : τ → String → Logged (Option ByteArray)
  /-- Replaces the contents of a file that is there. -/
  overwrite : τ → String → ByteArray → Logged (Except MigrationError τ)
  /-- The paths of all files. -/
  paths : τ → List String

/-- The contents of the file of a path. -/
def FileTree.read {τ : Type} [FileTree τ] (tree : τ) (path : String) : Option ByteArray :=
  (FileTree.load tree path).value

@[simp]
theorem FileTree.value_load {τ : Type} [FileTree τ] (tree : τ) (path : String) :
    (FileTree.load tree path).value = FileTree.read tree path := rfl

end Codemod
