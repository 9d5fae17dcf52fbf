import Codemod.CommandLine

/-!
# The program

Reads the project from the disk, runs the command on it, and writes back the files that the command
has changed.

## Main definitions

* `main` — the program.
-/

namespace Codemod.Program

/-- What there is under an entry of a directory.  A link is taken as one to where it leads. -/
partial def load (e : IO.FS.DirEntry) : IO (Option Node) := do
  match (← e.path.symlinkMetadata).type with
  | .file => return some (.file (← IO.FS.readBinFile e.path) 0)
  | .symlink =>
    try return some (.link (Name.ofText (← IO.FS.realPath e.path).toString).bytes)
    catch _ => return some (.link [])
  | .dir =>
    let mut entries := []
    for inner in ← e.path.readDir do
      if let some n ← load inner then entries := (.ofText inner.fileName, n) :: entries
    return some (.dir entries)
  | .other => return none

/-- The place of a path that is written from the top directory on. -/
def placeOf (path : String) : Place := (Path.names path).filter (!·.bytes.isEmpty)

/-- A disk with what there is at a path added to it. -/
def loadPath (top : Node) (path : String) : IO Node := do
  try
    let real ← IO.FS.realPath path
    match ← load ⟨real, "."⟩ with
    | some n => return Node.add n (some top) (placeOf real.toString)
    | none => return top
  catch _ => return top

/-- The variables of the environment. -/
def loadEnvironment : IO (List (String × String)) := do
  let bytes ← IO.FS.readBinFile "/proc/self/environ"
  let text := (String.fromUTF8? bytes).getD ""
  return (text.splitOn (String.singleton (Char.ofNat 0))).filterMap fun v =>
    match v.splitOn "=" with
    | name :: rest => if rest.isEmpty then none else some (name, "=".intercalate rest)
    | [] => none

/-- The part of the world that arguments speak of. -/
def loadWorld (arguments : List String) : IO CommandLine.World := do
  let base := placeOf (← IO.currentDir).toString
  let paths := match CommandLine.Request.ofArguments arguments with
    | .ok (.options o) => o.rootPath :: o.rules.toList
    | _ => []
  let mut disk := Node.add (.dir []) none base
  for path in paths do
    disk ← loadPath disk path
  return ⟨disk, base, ← loadEnvironment⟩

/-- Writes the files that differ between two disks. -/
def store (before after : Node) : IO Unit := do
  for (place, n) in after.leaves do
    if let .file content _ := n then
      let same := match before.get? place with
        | some (.file old _) => old == content
        | _ => false
      if !same then IO.FS.writeBinFile ("/" ++ Path.ofNames place) content

/-- Prints a line beside the output. -/
def printNotice : Log.Line → IO Unit
  | .text s => IO.eprintln s
  | .document v => IO.eprintln (String.ofList v.compact)

end Codemod.Program

/-- The program. -/
def main (arguments : List String) : IO UInt32 := do
  let world ← Codemod.Program.loadWorld arguments
  match Codemod.CommandLine.execute Codemod.Syntax.typeScript Codemod.Regex.compile world
    arguments with
  | none =>
    IO.eprintln "a comment is no part of its file"
    return 101
  | some e =>
    Codemod.Program.store world.disk e.disk
    IO.print e.output
    e.notices.forM Codemod.Program.printNotice
    return e.code.toUInt32
