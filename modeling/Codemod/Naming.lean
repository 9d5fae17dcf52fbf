import Codemod.Log
import Codemod.Text.Quoted

/-!
# Naming conventions

Generated files are named `name.component.ts`, `name-component.ts` or plain `name.ts`.  A pattern in
one of the conventions is expanded so that files named in any of them are meant.

## Main definitions

* `Naming` — the segments of file names.
* `Naming.expand` — the patterns that stand for a pattern.
* `Naming.expandAll` — the patterns that stand for patterns.
-/

namespace Codemod

/-- The segments of file names. -/
structure Naming where
  /-- The segments that are recognised. -/
  segments : List String
  /-- The segments that a file name can do without. -/
  removable : List String
  deriving DecidableEq, Repr, Inhabited

namespace Naming

/-- A text before the last occurrence of a character, and from it on. -/
def splitAtLast? (c : Char) : List Char → Option (List Char × List Char)
  | [] => none
  | x :: xs =>
    match splitAtLast? c xs with
    | some (before, after) => some (x :: before, after)
    | none => if x = c then some ([], x :: xs) else none

/-- The directory of a pattern with its slash, and the file name. -/
def splitDirectory (cs : List Char) : List Char × List Char :=
  match splitAtLast? '/' cs with
  | some (before, after) => (before ++ ['/'], after.drop 1)
  | none => ([], cs)

/-- A file name before its extension, and the extension with its dot.  A dot at the start does not
begin an extension. -/
def splitExtension? (name : List Char) : Option (List Char × List Char) :=
  (splitAtLast? '.' name).filter fun p => !p.1.isEmpty

/-- A text without an ending. -/
def dropEnding? (ending cs : List Char) : Option (List Char) :=
  if ending.isSuffixOf cs then some (cs.take (cs.length - ending.length)) else none

/-- The stem of a name that ends in a segment after a dot or a dash. -/
def stem? (name segment : List Char) : Option (List Char) := do
  let before ← dropEnding? segment name
  let stem ← (dropEnding? ['.'] before).or (dropEnding? ['-'] before)
  if stem.isEmpty then none else some stem

/-- The first segment that a name ends in, and the stem before it. -/
def segmentOf? (n : Naming) (name : List Char) : Option (String × List Char) :=
  n.segments.findSome? fun s => (stem? name s.toList).map fun stem => (s, stem)

/-- Adds an element that is not there yet. -/
def insertNew (xs : List String) (x : String) : List String := if x ∈ xs then xs else xs ++ [x]

/-- The patterns besides a pattern that stand for it. -/
def siblings (n : Naming) (pattern : List Char) : List String :=
  let (dir, name) := splitDirectory pattern
  match splitExtension? name with
  | none => []
  | some (head, extension) =>
    match n.segmentOf? head with
    | none => []
    | some (s, stem) =>
      let form (middle : List Char) : String := String.ofList (dir ++ stem ++ middle ++ extension)
      [form ('.' :: s.toList), form ('-' :: s.toList)] ++
        if s ∈ n.removable then [form []] else []

/-- The patterns that stand for a pattern, which is the first of them. -/
def patternsFor (n : Naming) (pattern : String) : List String :=
  (n.siblings pattern.toList).foldl insertNew [pattern]

/-- The part of the engine that expands patterns. -/
def target : String := "apishift_services::services::patterns"

/-- A set of texts in words. -/
def renderSet (xs : List String) : String :=
  "\x7b" ++ ", ".intercalate (xs.map fun x => String.ofList (Text.quote x.toList)) ++ "\x7d"

/-- The patterns that stand for a pattern; others than itself are told. -/
def expand (n : Naming) (pattern : String) : Logged (List String) := do
  let patterns := n.patternsFor pattern
  if 1 < patterns.length then
    Logged.tell .trace target "Expanded file pattern"
      [("pattern", .text pattern), ("expanded", .text (renderSet patterns))]
  return patterns

/-- The patterns that stand for patterns, each of them once. -/
def expandInto (n : Naming) (found : List String) : List String → Logged (List String)
  | [] => pure found
  | p :: ps => do
    let patterns ← n.expand p
    n.expandInto (patterns.foldl insertNew found) ps

/-- The patterns that stand for patterns, each of them once. -/
def expandAll (n : Naming) (patterns : List String) : Logged (List String) :=
  n.expandInto [] patterns

end Naming

end Codemod
