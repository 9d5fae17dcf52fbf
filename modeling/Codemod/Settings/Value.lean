/-!
# Settings

Settings come from several layers, each of which is a tree of values.  A later layer goes before an
earlier one; tables are merged entry by entry.

## Main definitions

* `Setting` — a tree of values.
* `Setting.merge` — a layer under another.
* `Setting.nest` — a value under a path of names.
-/

namespace Codemod

/-- A tree of values. -/
inductive Setting
  | text (s : String)
  | flag (b : Bool)
  /-- A number.  No setting is one, so it is not told which. -/
  | number
  | list (items : List Setting)
  | table (entries : List (String × Setting))
  deriving Inhabited

namespace Setting

/-- An entry of a table, changed, or made from nothing. -/
def alterEntry (name : String) (change : Option Setting → Setting) :
    List (String × Setting) → List (String × Setting)
  | [] => [(name, change none)]
  | e :: es => if e.1 = name then (name, change (some e.2)) :: es else e :: alterEntry name change es

mutual

/-- A value put over an earlier one. -/
def putOver : (new old : Setting) → Setting
  | table entries, table before => table (entriesOver entries before)
  | new, _ => new

/-- Entries put over earlier ones. -/
def entriesOver : (new old : List (String × Setting)) → List (String × Setting)
  | [], before => before
  | (name, v) :: es, before =>
    entriesOver es (alterEntry name (fun o => match o with | some o => putOver v o | none => v) before)

end

/-- A layer under another. -/
def merge (old new : Setting) : Setting := putOver new old

/-- A value under a path of names. -/
def nest : List String → Setting → Setting
  | [], v => v
  | name :: names, v => table [(name, nest names v)]

/-- The value of a name in a table. -/
def get? (name : String) : Setting → Option Setting
  | table entries => entries.lookup name
  | _ => none

/-- The text of a value that is text. -/
def text? : Setting → Option String
  | text s => some s
  | _ => none

/-- The texts of values that are texts. -/
def allTexts? : List Setting → Option (List String)
  | [] => some []
  | v :: vs => do
    let s ← v.text?
    let rest ← allTexts? vs
    return s :: rest

/-- The texts of a list of texts. -/
def texts? : Setting → Option (List String)
  | list items => allTexts? items
  | _ => none

end Setting

end Codemod
