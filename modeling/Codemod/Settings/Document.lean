import Codemod.Settings.Scan

/-!
# Settings files

A settings file is a list of names with values, under headers of tables.  A name is given once, and a
table is opened once.

## Main definitions

* `Item` — a part of a file that is being read.
* `readDocument` — the settings of a file.
-/

namespace Codemod.Settings

/-! ### Tables that are being filled -/

/-- A part of a file that is being read. -/
inductive Item
  | value (s : Setting)
  /-- A table.  It is implicit if no header has opened it, and dotted if names with dots have made
  it. -/
  | table (implicit dotted : Bool) (entries : List (String × Item))
  /-- Tables of one name, of which the last is open. -/
  | tables (earlier : List Item) (last : Item)
  deriving Inhabited

/-- Replaces an entry, or adds it. -/
def setItem (name : String) (item : Item) : List (String × Item) → List (String × Item)
  | [] => [(name, item)]
  | e :: es => if e.1 = name then (name, item) :: es else e :: setItem name item es

/-- Changes the table at a path, and makes the tables on the way to it.  Names with dots cannot reach
into a table that has been opened. -/
def changeAt (dotted : Bool) (change : Item → Option Item) : List String → Item → Option Item
  | [], t => change t
  | name :: names, .table i d entries =>
    match entries.lookup name with
    | none =>
      (changeAt dotted change names (.table true dotted [])).map fun t =>
        .table i d (entries ++ [(name, t)])
    | some (.value _) => none
    | some (.tables earlier last) =>
      (changeAt dotted change names last).map fun t =>
        .table i d (setItem name (.tables earlier t) entries)
    | some (.table i' d' inner) =>
      if dotted && !i' then none
      else
        (changeAt dotted change names (.table i' d' inner)).map fun t =>
          .table i d (setItem name t entries)
  | _ :: _, _ => none

/-- Adds a value to a table under a name that is not there yet.  Tables made by names with dots are
filled by such names only, and other tables by other names. -/
def addValue (viaDots : Bool) (name : String) (v : Setting) : Item → Option Item
  | .table i d entries =>
    if d ≠ viaDots || (entries.lookup name).isSome then none
    else some (.table i d (entries ++ [(name, .value v)]))
  | _ => none

/-- Adds a value under names. -/
def insertKey (names : List String) (v : Setting) (t : Item) : Option Item :=
  match names.getLast? with
  | none => none
  | some name =>
    let path := names.dropLast
    changeAt true (addValue (!path.isEmpty) name v) path t

mutual

/-- What a part of a file says. -/
def Item.setting : Item → Setting
  | .value s => s
  | .table _ _ entries => .table (itemEntries entries)
  | .tables earlier last => .list (itemList earlier ++ [last.setting])

/-- What entries say. -/
def itemEntries : List (String × Item) → List (String × Setting)
  | [] => []
  | (name, i) :: es => (name, i.setting) :: itemEntries es

/-- What parts say. -/
def itemList : List Item → List Setting
  | [] => []
  | i :: is => i.setting :: itemList is

end

/-! ### Names and values -/

/-- `isNameChar c` tells whether `c` can stand in a name without quotes. -/
def isNameChar (c : Char) : Bool := c.isAlphanum || c = '_' || c = '-'

/-- A name. -/
def scanName : Scan String := fun cs =>
  match cs with
  | c :: _ =>
    if c = '\x22' || c = '\x27' then (scanLineString cs).map fun p => (String.ofList p.1, p.2)
    else
      let name := cs.takeWhile isNameChar
      if name.isEmpty then none else some (String.ofList name, cs.drop name.length)
  | [] => none

/-- The most names that dots may join, and the most brackets that may be open. -/
def depthLimit : Nat := 79

/-- Names joined by dots, of which there are no more than `fuel`. -/
def scanNamesWithin : (fuel : Nat) → Scan (List String)
  | 0, _ => none
  | fuel + 1, cs => do
    let (name, rest) ← scanName cs
    match skipBlanks rest with
    | '.' :: more =>
      let (names, rest) ← scanNamesWithin fuel (skipBlanks more)
      return (name :: names, rest)
    | rest => return ([name], rest)

/-- Names joined by dots, up to the first character after them that is no blank. -/
def scanNames : Scan (List String) := scanNamesWithin depthLimit

/-- The text after blanks, comments and ends of lines; `none` if a comment is not ended by a line. -/
def skipLines : (fuel : Nat) → List Char → Option (List Char)
  | 0, cs => some cs
  | fuel + 1, cs =>
    match skipBlanks cs with
    | '#' :: rest => (newline? (skipComment ('#' :: rest))).bind (skipLines fuel)
    | rest =>
      match newline? rest with
      | some more => skipLines fuel more
      | none => some rest

/-- The text after blanks, comments and ends of lines. -/
def skipAll (cs : List Char) : Option (List Char) := skipLines (cs.length + 1) cs

mutual

/-- A value, in no more than `fuel` steps and with no more than `depth` brackets open. -/
def scanValue : (fuel depth : Nat) → Scan Setting
  | 0, _, _ => none
  | fuel + 1, depth, cs =>
    match cs with
    | '[' :: rest =>
      match depth with
      | 0 => none
      | depth + 1 =>
        ((skipAll rest).bind (scanItems fuel depth)).map fun p => (.list p.1, p.2)
    | '\x7b' :: rest =>
      match depth with
      | 0 => none
      | depth + 1 =>
        match skipBlanks rest with
        | '\x7d' :: more => some (.table [], more)
        | more => (scanEntries fuel depth (.table false false []) more).map fun p =>
          (p.1.setting, p.2)
    | c :: _ =>
      if c = '\x22' || c = '\x27' then
        (scanString cs).map fun p => (.text (String.ofList p.1), p.2)
      else if startsDate cs then scanDate cs
      else if c = 't' then (word? "true".toList cs).map fun rest => (.flag true, rest)
      else if c = 'f' then (word? "false".toList cs).map fun rest => (.flag false, rest)
      else scanNumber cs
    | [] => none

/-- The items of a list up to its end. -/
def scanItems : (fuel depth : Nat) → Scan (List Setting)
  | 0, _, _ => none
  | fuel + 1, depth, cs =>
    match cs with
    | ']' :: rest => some ([], rest)
    | _ => do
      let (v, rest) ← scanValue fuel depth cs
      let rest ← skipAll rest
      match rest with
      | ',' :: more =>
        let more ← skipAll more
        let (vs, rest) ← scanItems fuel depth more
        return (v :: vs, rest)
      | ']' :: more => return ([v], more)
      | _ => none

/-- The entries of a table in braces up to its end, added to those read. -/
def scanEntries : (fuel depth : Nat) → Item → Scan Item
  | 0, _, _, _ => none
  | fuel + 1, depth, t, cs => do
    let (names, rest) ← scanNames cs
    let rest ← word? ['='] (skipBlanks rest)
    let (v, rest) ← scanValue fuel depth (skipBlanks rest)
    let t ← insertKey names v t
    match skipBlanks rest with
    | ',' :: more => scanEntries fuel depth t (skipBlanks more)
    | '\x7d' :: more => return (t, more)
    | _ => none

end

/-! ### Lines -/

/-- A file that is being read. -/
structure Draft where
  /-- What stands before the table that is open. -/
  root : Item
  /-- The names of the table that is open. -/
  path : List String
  /-- Whether it is one of several tables of the name. -/
  isRepeated : Bool
  current : Item

/-- Puts the open table where its names say. -/
def Draft.close (d : Draft) : Option Item :=
  match d.path.getLast? with
  | none => some d.current
  | some name =>
    changeAt false (fun t =>
      match t with
      | .table i dot entries =>
        if d.isRepeated then
          match entries.lookup name with
          | none => some (.table i dot (entries ++ [(name, .tables [] d.current)]))
          | some (.tables earlier last) =>
            some (.table i dot (setItem name (.tables (earlier ++ [last]) d.current) entries))
          | some _ => none
        else some (.table i dot (setItem name d.current entries))
      | _ => none) d.path.dropLast d.root

/-- The entry of a name in the table at a path. -/
def entryAt? (root : Item) (path : List String) (name : String) : Option (Option Item) :=
  match path, root with
  | [], .table _ _ entries => some (entries.lookup name)
  | p :: ps, .table _ _ entries =>
    match entries.lookup p with
    | none => some none
    | some (.value _) => none
    | some (.tables _ last) => entryAt? last ps name
    | some (.table i d inner) => entryAt? (.table i d inner) ps name
  | _, _ => none

/-- Opens a table.  One that names further down have made is taken over; any other is there
already. -/
def Draft.openTable (d : Draft) (names : List String) (isRepeated : Bool) : Option Draft := do
  let root ← d.close
  let name ← names.getLast?
  let entry ← entryAt? root names.dropLast name
  match entry, isRepeated with
  | none, _ => return ⟨root, names, isRepeated, .table false false []⟩
  | some (.tables _ _), true => return ⟨root, names, true, .table false false []⟩
  | some (.table true false entries), false => return ⟨root, names, false, .table false false entries⟩
  | _, _ => none

/-- A header after its first bracket: the names, whether it is in two brackets, and the rest. -/
def scanHeader : Scan (List String × Bool) := fun cs =>
  let (isRepeated, cs) := match cs with
    | '[' :: rest => (true, rest)
    | _ => (false, cs)
  (scanNames (skipBlanks cs)).bind fun p =>
    (word? (if isRepeated then [']', ']'] else [']']) (skipBlanks p.2)).map fun rest =>
      ((p.1, isRepeated), rest)

/-- A header or a name with its value. -/
def scanLine (d : Draft) : Scan Draft := fun cs =>
  match cs with
  | '[' :: rest => do
    let ((names, isRepeated), rest) ← scanHeader rest
    let d ← d.openTable names isRepeated
    return (d, rest)
  | _ => do
    let (names, rest) ← scanNames cs
    let rest ← word? ['='] (skipBlanks rest)
    let (v, rest) ← scanValue (2 * rest.length + 2) depthLimit (skipBlanks rest)
    let current ← insertKey names v d.current
    return ({ d with current }, rest)

/-- Lines up to the end of a file, of which there are no more than `fuel`. -/
def scanLines : (fuel : Nat) → Draft → List Char → Option Draft
  | 0, _, _ => none
  | fuel + 1, d, cs =>
    let ended (d : Draft) (cs : List Char) : Option Draft :=
      match skipComment (skipBlanks cs) with
      | [] => some d
      | rest => (newline? rest).bind (scanLines fuel d)
    match skipBlanks cs with
    | [] => some d
    | '#' :: rest => ended d ('#' :: rest)
    | c :: rest =>
      if c = '\n' || c = '\r' then ended d (c :: rest)
      else (scanLine d (c :: rest)).bind fun p => ended p.1 p.2

/-- A text without the mark that may stand at its start. -/
def withoutMark : List Char → List Char
  | c :: cs => if c.toNat = 0xFEFF then cs else c :: cs
  | [] => []

/-- The settings of a file. -/
def readDocument (cs : List Char) : Option Setting := do
  let empty := Item.table false false []
  let cs := withoutMark cs
  let d ← scanLines (cs.length + 1) ⟨empty, [], false, empty⟩ cs
  let root ← d.close
  return root.setting

end Codemod.Settings
