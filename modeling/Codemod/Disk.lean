import Codemod.Name

/-!
# Disks

A disk is a directory of files, links and further directories.  A path is followed from place to
place, through links, to the place where it leads.

## Main definitions

* `Node` — a file, a link or a directory.
* `Node.get?`, `Node.set` — what is at a place.
* `Node.resolve?` — the place where a path leads.
* `Node.Obstacle` — why it leads to no file.
* `Node.add`, `Node.leaves` — lays out a disk, and lists what is on it.
* `Node.files` — the files of a directory in the order of a visit.
-/

namespace Codemod

/-- A file, a link or a directory. -/
inductive Node
  | file (content : ByteArray) (mode : Nat)
  | link (target : List UInt8)
  | dir (entries : List (Name × Node))
  deriving Inhabited

/-- The names on the way from the top directory to a place, without links. -/
abbrev Place := List Name

namespace Node

/-- What is at a place. -/
def get? : Node → Place → Option Node
  | n, [] => some n
  | dir entries, name :: p => (entries.lookup name).bind fun n => n.get? p
  | _, _ :: _ => none

/-- Replaces what is at a place. -/
def set (new : Node) : Node → Place → Node
  | _, [] => new
  | dir entries, name :: p =>
    dir (entries.map fun e => if e.1 = name then (e.1, set new e.2 p) else e)
  | n, _ :: _ => n

/-- Why no file is found where names lead. -/
inductive Obstacle
  | missing
  /-- There are names left after something that is no directory. -/
  | noDirectory
  | tooManyLinks
  /-- What is found is a directory. -/
  | directory
  deriving DecidableEq, Repr, Inhabited

/-- The words for an obstacle. -/
def Obstacle.message : Obstacle → String
  | missing => "No such file or directory (os error 2)"
  | noDirectory => "Not a directory (os error 20)"
  | tooManyLinks => "Too many levels of symbolic links (os error 40)"
  | directory => "Is a directory (os error 21)"

/-- How far names lead before the first link. -/
inductive Walk
  /-- They lead to a place. -/
  | arrived (place : Place)
  /-- There is a link in a directory, with names left after it. -/
  | atLink (place : Place) (target : List UInt8) (rest : List Name)
  /-- They lead nowhere. -/
  | lost (why : Obstacle)
  deriving DecidableEq, Repr, Inhabited

/-- Follows names from a place up to the first link. -/
def walk (top : Node) : Place → List Name → Walk
  | p, [] => .arrived p
  | p, name :: names =>
    match top.get? p with
    | some (dir entries) =>
      if name = .ofText "" || name = .ofText "." then walk top p names
      else if name = .ofText ".." then walk top p.dropLast names
      else
        match entries.lookup name with
        | none => .lost .missing
        | some (link target) => .atLink p target names
        | some _ => walk top (p ++ [name]) names
    | some _ => .lost .noDirectory
    | none => .lost .missing

/-- The most links that are followed. -/
def linkLimit : Nat := 40

/-- The place where names lead from a place, through a number of links. -/
def resolveWithin (top : Node) : (links : Nat) → Place → List Name → Except Obstacle Place
  | links, p, names =>
    match walk top p names with
    | .arrived q => .ok q
    | .lost why => .error why
    | .atLink q target rest =>
      match links with
      | 0 => .error .tooManyLinks
      | links + 1 =>
        let start := if target.head? = some Path.slashByte then [] else q
        resolveWithin top links start (Path.namesOfBytes target ++ rest)

/-- The place where names lead from a place. -/
def resolve? (top : Node) (p : Place) (names : List Name) : Option Place :=
  (resolveWithin top linkLimit p names).toOption

/-- What names lead to from a place. -/
def find? (top : Node) (p : Place) (names : List Name) : Option Node :=
  (top.resolve? p names).bind top.get?

/-- The contents and the mode of the file that names lead to. -/
def file? (top : Node) (p : Place) (names : List Name) : Option (ByteArray × Nat) :=
  match top.find? p names with
  | some (file content mode) => some (content, mode)
  | _ => none

/-- Why names that lead to no file do not. -/
def obstacle (top : Node) (p : Place) (names : List Name) : Obstacle :=
  match resolveWithin top linkLimit p names with
  | .error why => why
  | .ok _ => .directory

/-- `top.isDir p names` tells whether `names` lead from the place `p` to a directory. -/
def isDir (top : Node) (p : Place) (names : List Name) : Bool :=
  match top.find? p names with
  | some (dir _) => true
  | _ => false

/-! ### Laying out -/

/-- An entry of a directory, changed, or made from nothing. -/
def setEntry (name : Name) (change : Option Node → Node) :
    List (Name × Node) → List (Name × Node)
  | [] => [(name, change none)]
  | e :: es => if e.1 = name then (name, change (some e.2)) :: es else e :: setEntry name change es

/-- Adds a node at a place, with the directories on the way to it. -/
def add (new : Node) : Option Node → Place → Node
  | _, [] => new
  | some (dir entries), name :: p => dir (setEntry name (fun n => add new n p) entries)
  | _, name :: p => dir [(name, add new none p)]

mutual

/-- All places of a node that are no directories, and what is there. -/
def leaves : Node → List (Place × Node)
  | dir entries => leavesOf entries
  | n => [([], n)]

/-- All places below entries that are no directories. -/
def leavesOf : List (Name × Node) → List (Place × Node)
  | [] => []
  | (name, n) :: es => n.leaves.map (fun l => (name :: l.1, l.2)) ++ leavesOf es

end

/-! ### Visiting -/

/-- The directories that are never visited. -/
def ignoredNames : List String := [".git", "node_modules"]

/-- `n.isIgnored name` tells whether the entry `n` of this `name` is a directory that is not
visited. -/
def isIgnored (name : Name) : Node → Bool
  | dir _ => (ignoredNames.map Name.ofText).contains name
  | _ => false

mutual

/-- The names of all files below a node, in the order of a visit.  Links are not followed. -/
def files : Node → List (List Name)
  | file _ _ => [[]]
  | link _ => []
  | dir entries => (Name.sortByName (entryFiles entries)).flatMap fun e => e.2.map (e.1 :: ·)

/-- The files below each entry that is visited. -/
def entryFiles : List (Name × Node) → List (Name × List (List Name))
  | [] => []
  | (name, n) :: es =>
    if n.isIgnored name then entryFiles es else (name, n.files) :: entryFiles es

end

end Node

end Codemod
