/-!
# Paths

The paths of a tree are written with slashes from its root on.  Slashes at the start of a path are
not part of it.

## Main definitions

* `Path.strip` — a path without the slashes at its start.
* `Path.split` — the names of a path.
* `Path.join` — the path of names.
-/

namespace Codemod.Path

/-- A text without the slashes at its start. -/
def stripChars (cs : List Char) : List Char := cs.dropWhile (· = '/')

@[simp]
theorem stripChars_stripChars (cs : List Char) : stripChars (stripChars cs) = stripChars cs := by
  induction cs with
  | nil => rfl
  | cons c cs ih =>
    unfold stripChars at ih ⊢
    by_cases h : c = '/' <;> simp [h, ih]

/-- A path without the slashes at its start. -/
def strip (path : String) : String := String.ofList (stripChars path.toList)

@[simp]
theorem strip_strip (path : String) : strip (strip path) = strip path := by
  simp [strip]

/-- The parts of a list between separators. -/
def pieces {α : Type} [DecidableEq α] (separator : α) : List α → List (List α)
  | [] => [[]]
  | c :: cs =>
    if c = separator then [] :: pieces separator cs
    else
      match pieces separator cs with
      | [] => [[c]]
      | p :: ps => (c :: p) :: ps

/-- The parts of a text between slashes. -/
def splitChars (cs : List Char) : List (List Char) := pieces '/' cs

/-- The names of a path, one for every part between slashes, be it empty. -/
def split (path : String) : List String := (splitChars path.toList).map String.ofList

/-- The path of names. -/
def join (names : List String) : String := "/".intercalate names

end Codemod.Path
