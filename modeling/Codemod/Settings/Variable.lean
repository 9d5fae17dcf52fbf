import Codemod.Settings.Scan
import Codemod.Text.Property

/-!
# Settings in the environment

A variable of the environment gives one setting: its name says which, and its value is a number, a
truth value, a string, a list, a table, or just text.

## Main definitions

* `parseValue` — what the value of a variable says.
* `variablePath?` — the setting that the name of a variable says.
* `ofEnvironment` — the settings of an environment.
-/

namespace Codemod.Settings

/-! ### Values -/

/-- `isAsciiBlank c` tells whether `c` is a blank. -/
def isAsciiBlank (c : Char) : Bool :=
  c = ' ' || c = '\t' || c = '\n' || c = '\r' || c.toNat = 12

/-- The text from the first character on that is no blank. -/
def skipAsciiBlanks (cs : List Char) : List Char := cs.dropWhile isAsciiBlank

/-- `isSeparator c` tells whether `c` ends a text that is not in quotes. -/
def isSeparator (c : Char) : Bool :=
  c = ',' || c = '\x7b' || c = '\x7d' || c = '[' || c = ']'

/-- A text without blanks at its ends. -/
def trim (cs : List Char) : List Char :=
  ((cs.dropWhile Text.isWhiteSpace).reverse.dropWhile Text.isWhiteSpace).reverse

/-- `isNatural limit cs` tells whether `cs` is digits, with no more than `limit` as their value. -/
def isNatural (limit : Nat) (cs : List Char) : Bool :=
  !cs.isEmpty && cs.all Char.isDigit && digitsValue 10 cs ≤ limit

/-- `isInteger cs` tells whether `cs` is a whole number of a machine word. -/
def isInteger : List Char → Bool
  | '+' :: cs => isNatural (Nat.pow 2 64 - 1) cs
  | '-' :: cs => isNatural (Nat.pow 2 63) cs
  | cs => isNatural (Nat.pow 2 64 - 1) cs

/-- `isExponent cs` tells whether `cs` is a power of ten, or empty. -/
def isExponent : List Char → Bool
  | [] => true
  | c :: cs =>
    let digits := match cs with
      | '+' :: ds => ds
      | '-' :: ds => ds
      | _ => cs
    (c = 'e' || c = 'E') && !digits.isEmpty && digits.all Char.isDigit

/-- `isPointed cs` tells whether `cs` is a number with a point. -/
def isPointed (cs : List Char) : Bool :=
  let cs := match cs with
    | '+' :: rest => rest
    | '-' :: rest => rest
    | _ => cs
  let whole := cs.takeWhile Char.isDigit
  match cs.drop whole.length with
  | '.' :: rest =>
    let fraction := rest.takeWhile Char.isDigit
    !(whole.isEmpty && fraction.isEmpty) && isExponent (rest.drop fraction.length)
  | _ => false

/-- What text that is not in quotes says. -/
def plainValue (cs : List Char) : Setting :=
  let cs := trim cs
  if isPointed cs || isInteger cs then .number else .text (String.ofList cs)

/-- The text in quotes up to the last of them, escapes and all. -/
def quotedFrom : (escaped : Bool) → Scan (List Char)
  | _, [] => none
  | escaped, c :: cs =>
    if !escaped && c = '\x22' then some ([], cs)
    else (quotedFrom (!escaped && c = '\\') cs).map fun p => (c :: p.1, p.2)

/-- A text with its escapes replaced; `skip` characters belong to an escape that has been read. -/
def unescape : (skip : Nat) → List Char → Option (List Char)
  | _, [] => some []
  | skip + 1, _ :: cs => unescape skip cs
  | 0, c :: cs =>
    if c = '\\' then (escape? cs).bind fun e => (unescape e.2 cs).map (e.1 :: ·)
    else if isPlainChar c then (unescape 0 cs).map (c :: ·)
    else none

/-- A text in quotes after the first of them. -/
def scanQuoted : Scan String := fun cs =>
  (quotedFrom false cs).bind fun p => (unescape 0 p.1).map fun s => (String.ofList s, p.2)

/-- A name of a table in braces. -/
def scanKey : Scan String := fun cs =>
  match cs with
  | '\x22' :: rest => scanQuoted rest
  | _ =>
    let name := cs.takeWhile fun c => c.isAlphanum || c = '_' || c = '-'
    if name.isEmpty then none else some (String.ofList name, cs.drop name.length)

mutual

/-- A value with the blanks around it, in no more than `fuel` steps. -/
def scanSetting : (fuel : Nat) → Scan Setting
  | 0, _ => none
  | fuel + 1, cs =>
    let cs := skipAsciiBlanks cs
    let found : Option (Setting × List Char) := match (word? "true".toList cs), (word? "false".toList cs) with
      | some rest, _ => some (Setting.flag true, rest)
      | none, some rest => some (Setting.flag false, rest)
      | none, none =>
        match cs with
        | '\x7b' :: rest => (scanTable fuel rest).map fun p => (.table p.1, p.2)
        | '[' :: rest => (scanList fuel rest).map fun p => (.list p.1, p.2)
        | '\x22' :: rest => (scanQuoted rest).map fun p => (.text p.1, p.2)
        | '\x27' :: c :: '\x27' :: rest => some (.text (String.singleton c), rest)
        | '\x27' :: _ => none
        | _ =>
          let plain := cs.takeWhile fun c => !isSeparator c
          some (plainValue plain, cs.drop plain.length)
    found.map fun p => (p.1, skipAsciiBlanks p.2)

/-- The items of a list up to its end. -/
def scanList : (fuel : Nat) → Scan (List Setting)
  | 0, _ => none
  | fuel + 1, cs =>
    match cs with
    | ']' :: rest => some ([], rest)
    | _ => do
      let (v, rest) ← scanSetting fuel cs
      match rest with
      | ']' :: more => return ([v], more)
      | ',' :: more =>
        let (vs, rest) ← scanList fuel more
        return (v :: vs, rest)
      | _ => none

/-- The entries of a table up to its end. -/
def scanTable : (fuel : Nat) → Scan (List (String × Setting))
  | 0, _ => none
  | fuel + 1, cs =>
    match cs with
    | '\x7d' :: rest => some ([], rest)
    | _ => do
      let (name, rest) ← scanKey (skipAsciiBlanks cs)
      let rest ← word? ['='] (skipAsciiBlanks rest)
      let (v, rest) ← scanSetting fuel rest
      match rest with
      | '\x7d' :: more => return ([(name, v)], more)
      | ',' :: more =>
        let (es, rest) ← scanTable fuel more
        return (if (es.lookup name).isSome then es else (name, v) :: es, rest)
      | _ => none

end

/-- What the value of a variable says.  A value that is out of order is text as it is. -/
def parseValue (value : String) : Setting :=
  let cs := value.toList
  match scanSetting (2 * cs.length + 2) cs with
  | some (v, []) => v
  | _ => .text value

/-! ### Names -/

/-- What the names of variables for settings start with, in small letters. -/
def variableStart : List Char := "apishift__".toList

/-- A text with two underscores replaced by a dot wherever they stand. -/
def dotted : List Char → List Char
  | '_' :: '_' :: cs => '.' :: dotted cs
  | c :: cs => c :: dotted cs
  | [] => []

/-- The parts of a text between dots. -/
def splitDots : List Char → List (List Char)
  | [] => [[]]
  | c :: cs =>
    if c = '.' then [] :: splitDots cs
    else
      match splitDots cs with
      | [] => [[c]]
      | p :: ps => (c :: p) :: ps

/-- The setting that the name of a variable says; small and capital letters are alike. -/
def variablePath? (name : String) : Option (List String) :=
  let cs := (trim name.toList).map Char.toLower
  if variableStart.isPrefixOf cs then
    let parts := splitDots (dotted (cs.drop variableStart.length))
    if parts.any List.isEmpty then none else some (parts.map String.ofList)
  else none

/-- The settings of an environment. -/
def ofEnvironment (environment : List (String × String)) : Setting :=
  environment.foldl (fun s v =>
    match variablePath? v.1 with
    | some path => s.merge (.nest path (parseValue v.2))
    | none => s) (.table [])

end Codemod.Settings
