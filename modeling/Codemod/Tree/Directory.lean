import Codemod.Disk
import Codemod.Tree
import Codemod.Tree.Memory

/-!
# Trees on a disk

A tree can be a directory of a disk.  In a dry run what would be written is kept aside: reading sees
it and the disk stays as it is.

## Main definitions

* `DirectoryTree` — a directory of a disk.
* `DirectoryTree.locate` — the names of a path on the disk, unless it leaves the directory.
-/

namespace Codemod

/-- A directory of a disk. -/
structure DirectoryTree where
  /-- The top directory of the disk. -/
  disk : Node
  /-- The place that paths start from. -/
  base : Place
  /-- The path of the directory. -/
  root : String
  dryRun : Bool
  /-- What a dry run would have written, in the order of paths. -/
  pending : List (String × ByteArray)
  deriving Inhabited

namespace DirectoryTree

/-- The part of the engine that works on a disk. -/
def target : String := "apishift_services::services::tree::fs"

/-- The names of a path on the disk.  A path that leaves the directory is refused. -/
def locate (t : DirectoryTree) (path : String) : Except MigrationError (List Name) :=
  let relative := Path.strip path
  if relative.isEmpty || (Path.split relative).contains ".." then
    .error (.internal ("Path escapes the project root: " ++ path))
  else .ok (Path.names t.root ++ Path.names relative)

/-- A path with that of the directory before it. -/
def fullPath (t : DirectoryTree) (path : String) : String :=
  if t.root.isEmpty || t.root.endsWith "/" then t.root ++ Path.strip path
  else t.root ++ "/" ++ Path.strip path

/-- The contents and the mode of the file of a path on the disk. -/
def file? (t : DirectoryTree) (path : String) : Option (ByteArray × Nat) :=
  match t.locate path with
  | .ok names => t.disk.file? t.base names
  | .error _ => none

/-- `t.contains path` tells whether there is a file of `path`. -/
def contains (t : DirectoryTree) (path : String) : Bool := (t.file? path).isSome

/-- Reads the file of a path. -/
def load (t : DirectoryTree) (path : String) : Logged (Option ByteArray) :=
  match t.pending.lookup (Path.strip path) with
  | some content => pure (some content)
  | none =>
    match t.locate path with
    | .error _ => pure none
    | .ok names =>
      match t.disk.file? t.base names with
      | some (content, _) => pure (some content)
      | none => do
        Logged.tell .debug target "Unreadable file"
          [("path", .text (t.fullPath path)),
            ("error", .text (t.disk.obstacle t.base names).message)]
        return none

/-- The contents of the file of a path. -/
def read (t : DirectoryTree) (path : String) : Option ByteArray := (t.load path).value

/-- A disk after a file has been put in the place of what names lead to.  The directory that the
names lead through is the one where the file is put; a link of the last name is replaced. -/
def put (disk : Node) (base : Place) (names : List Name) (file : Node) : Node :=
  match disk.resolve? base names.dropLast, names.getLast? with
  | some dir, some name => Node.set file disk (dir ++ [name])
  | _, _ => disk

/-- Replaces the contents of a file that is there, and keeps its mode. -/
def overwrite (t : DirectoryTree) (path : String) (content : ByteArray) :
    Logged (Except MigrationError DirectoryTree) :=
  match t.locate path with
  | .error e => pure (.error e)
  | .ok names =>
    match t.disk.file? t.base names with
    | none => pure (.error (.internal ("Cannot overwrite missing file: " ++ path)))
    | some (_, mode) =>
      if t.dryRun then do
        Logged.tell .debug target "Dry run: recording write"
          [("path", .text path), ("bytes", .number content.size)]
        return .ok { t with pending := insertFile (Path.strip path) content t.pending }
      else pure (.ok { t with disk := put t.disk t.base names (.file content mode) })

/-- The names of all files in the directory, directory by directory. -/
def visit (t : DirectoryTree) : List (List Name) :=
  match t.disk.find? t.base (Path.names t.root) with
  | some n => n.files
  | none => []

/-- The paths of all files.  Names are shown as texts, so a path need not lead to the file that it
is listed for. -/
def paths (t : DirectoryTree) : List String := t.visit.map Path.ofNames

instance : FileTree DirectoryTree where
  load := load
  overwrite := overwrite
  paths := paths

end DirectoryTree

end Codemod
