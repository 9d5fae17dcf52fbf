import Codemod.Settings.Value

/-!
# The parts of a settings file

Strings, numbers and dates as they are written in a settings file.

## Main definitions

* `Scan` — reads the first part of a text.
* `scanString` — a string in one of four forms of quotes.
* `scanNumber` — a number.
* `scanDate` — a date, a time, or both.
-/

namespace Codemod.Settings

/-- Reads the first part of a text: what it says and the rest. -/
abbrev Scan (α : Type) := List Char → Option (α × List Char)

/-- `isBlank c` tells whether `c` is a blank within a line. -/
def isBlank (c : Char) : Bool := c = ' ' || c = '\t'

/-- The text from the first character on that is no blank. -/
def skipBlanks (cs : List Char) : List Char := cs.dropWhile isBlank

/-- The text after the end of a line. -/
def newline? : List Char → Option (List Char)
  | '\n' :: cs => some cs
  | '\r' :: '\n' :: cs => some cs
  | _ => none

/-- `isPlainChar c` tells whether `c` can stand in a comment, or in a string without an escape.  No
control character but the tab can. -/
def isPlainChar (c : Char) : Bool := c = '\t' || (0x20 ≤ c.toNat && c.toNat ≠ 0x7f)

/-- The text after a comment, if there is one. -/
def skipComment : List Char → List Char
  | '#' :: cs => cs.dropWhile isPlainChar
  | cs => cs

/-- The text after a word. -/
def word? (word cs : List Char) : Option (List Char) :=
  if word.isPrefixOf cs then some (cs.drop word.length) else none

/-! ### Strings -/

/-- The value of a digit of base 16. -/
def hexValue? (c : Char) : Option Nat :=
  if c.isDigit then some (c.toNat - '0'.toNat)
  else if 'a' ≤ c && c ≤ 'f' then some (c.toNat - 'a'.toNat + 10)
  else if 'A' ≤ c && c ≤ 'F' then some (c.toNat - 'A'.toNat + 10)
  else none

/-- The number that digits of base 16 spell. -/
def hexNumber? : (value : Nat) → List Char → Option Nat
  | n, [] => some n
  | n, c :: cs => (hexValue? c).bind fun d => hexNumber? (16 * n + d) cs

/-- The character whose number is spelt by a count of digits. -/
def hexChar? (count : Nat) (cs : List Char) : Option Char :=
  let digits := cs.take count
  if digits.length < count then none
  else (hexNumber? 0 digits).bind fun n => if n.isValidChar then some (Char.ofNat n) else none

/-- The character that an escape stands for, and the length of the escape after the backslash. -/
def escape? : List Char → Option (Char × Nat)
  | [] => none
  | c :: cs =>
    if c = '\x22' || c = '\\' then some (c, 1)
    else if c = 'b' then some (Char.ofNat 8, 1)
    else if c = 't' then some ('\t', 1)
    else if c = 'n' then some ('\n', 1)
    else if c = 'f' then some (Char.ofNat 12, 1)
    else if c = 'r' then some ('\r', 1)
    else if c = 'u' then (hexChar? 4 cs).map fun d => (d, 5)
    else if c = 'U' then (hexChar? 8 cs).map fun d => (d, 9)
    else none

/-- The rest of a string on one line; `skip` characters belong to an escape that has been read. -/
def basicFrom : (skip : Nat) → Scan (List Char)
  | _, [] => none
  | skip + 1, _ :: cs => basicFrom skip cs
  | 0, c :: cs =>
    if c = '\x22' then some ([], cs)
    else if c = '\\' then
      (escape? cs).bind fun e => (basicFrom e.2 cs).map fun p => (e.1 :: p.1, p.2)
    else if isPlainChar c then (basicFrom 0 cs).map fun p => (c :: p.1, p.2)
    else none

/-- The rest of a string on one line without escapes. -/
def literalFrom : Scan (List Char)
  | [] => none
  | c :: cs =>
    if c = '\x27' then some ([], cs)
    else if isPlainChar c then (literalFrom cs).map fun p => (c :: p.1, p.2)
    else none

/-- The length of a run of a character. -/
def runLength (c : Char) (cs : List Char) : Nat := (cs.takeWhile (· = c)).length

/-- The length of blanks and ends of lines after a backslash at the end of a line; `none` if there is
more on the line. -/
def lineFold? (cs : List Char) : Option Nat :=
  (newline? (skipBlanks cs)).map fun rest =>
    cs.length - (rest.dropWhile fun c => isBlank c || c = '\n' || c = '\r').length

/-- The rest of a string over several lines, between runs of three quotes.  Up to two quotes may
stand before the last three. -/
def multilineFrom (quote : Char) (escapes : Bool) : (skip : Nat) → Scan (List Char)
  | _, [] => none
  | skip + 1, _ :: cs => multilineFrom quote escapes skip cs
  | 0, c :: cs =>
    if c = quote then
      let n := runLength quote (c :: cs)
      if n < 3 then (multilineFrom quote escapes (n - 1) cs).map fun p =>
        (List.replicate n quote ++ p.1, p.2)
      else if n ≤ 5 then some (List.replicate (n - 3) quote, cs.drop (n - 1))
      else none
    else if c = '\\' && escapes then
      match lineFold? cs with
      | some n => multilineFrom quote escapes n cs
      | none => (escape? cs).bind fun e =>
        (multilineFrom quote escapes e.2 cs).map fun p => (e.1 :: p.1, p.2)
    else if c = '\n' then (multilineFrom quote escapes 0 cs).map fun p => ('\n' :: p.1, p.2)
    else if c = '\r' && cs.head? = some '\n' then
      (multilineFrom quote escapes 1 cs).map fun p => ('\n' :: p.1, p.2)
    else if isPlainChar c then (multilineFrom quote escapes 0 cs).map fun p => (c :: p.1, p.2)
    else none

/-- A string over several lines after its first quotes.  The end of the first line is dropped. -/
def scanMultiline (quote : Char) (escapes : Bool) : Scan (List Char) := fun cs =>
  multilineFrom quote escapes 0 ((newline? cs).getD cs)

/-- A string on one line. -/
def scanLineString : Scan (List Char)
  | '\x22' :: cs => basicFrom 0 cs
  | '\x27' :: cs => literalFrom cs
  | _ => none

/-- A string. -/
def scanString : Scan (List Char) := fun cs =>
  match cs with
  | '\x22' :: '\x22' :: '\x22' :: rest => scanMultiline '\x22' true rest
  | '\x27' :: '\x27' :: '\x27' :: rest => scanMultiline '\x27' false rest
  | _ => scanLineString cs

/-! ### Numbers -/

/-- The digits at the start of a text, between which single underscores may stand. -/
def digitRun (isDigit : Char → Bool) : List Char → List Char × List Char
  | [] => ([], [])
  | c :: cs =>
    if isDigit c then
      let (ds, rest) := digitRun isDigit cs
      (c :: ds, rest)
    else if c = '_' && cs.head?.any isDigit then digitRun isDigit cs
    else ([], c :: cs)

/-- Digits, of which there is at least one and which do not start with an underscore. -/
def digits? (isDigit : Char → Bool) (cs : List Char) : Option (List Char × List Char) :=
  if cs.head?.any isDigit then some (digitRun isDigit cs) else none

/-- The number that digits spell. -/
def digitsValue (base : Nat) (ds : List Char) : Nat :=
  ds.foldl (fun n d => base * n + (hexValue? d).getD 0) 0

/-- `isWhole ds` tells whether the digits `ds` are those of a whole number, without a zero too
many. -/
def isWhole : List Char → Bool
  | '0' :: _ :: _ => false
  | _ => true

/-- The letter for a power of ten with its digits: whether the power is negative, the power, and the
rest. -/
def exponent? : List Char → Option ((Bool × Nat) × List Char)
  | c :: cs =>
    if c = 'e' || c = 'E' then
      let (negative, rest) := match cs with
        | '-' :: rest => (true, rest)
        | '+' :: rest => (false, rest)
        | _ => (false, cs)
      (digits? Char.isDigit rest).map fun p => ((negative, digitsValue 10 p.1), p.2)
    else none
  | [] => none

/-- `isTooLarge n up down` tells whether `n * 10 ^ up / 10 ^ down` is more than a floating point
number can be. -/
def isTooLarge (n up down : Nat) : Bool :=
  if n = 0 then false
  else
    let length := (Nat.toDigits 10 n).length
    if length + up < down + 300 then false
    else if down + 400 < length + up then true
    else (Nat.pow 2 1024 - Nat.pow 2 970) * Nat.pow 10 down ≤ n * Nat.pow 10 up

/-- A number with digits in another base after a letter for it. -/
def scanBased (base : Nat) (isDigit : Char → Bool) : Scan Setting := fun cs =>
  (digits? isDigit cs).bind fun p =>
    if digitsValue base p.1 < Nat.pow 2 63 then some (.number, p.2) else none

/-- A decimal number after its sign. -/
def scanDecimal (negative : Bool) : Scan Setting := fun cs =>
  (digits? Char.isDigit cs).bind fun p =>
    let (whole, rest) := p
    if !isWhole whole then none
    else
      let float (fraction : List Char) (rest : List Char) : Option (Setting × List Char) :=
        let n := digitsValue 10 (whole ++ fraction)
        let power := exponent? rest
        let (up, down) := match power with
          | some ((true, k), _) => (0, k + fraction.length)
          | some ((false, k), _) => (k, fraction.length)
          | none => (0, fraction.length)
        if !negative && isTooLarge n up down then none
        else some (.number, (power.map Prod.snd).getD rest)
      match rest with
      | '.' :: more => (digits? Char.isDigit more).bind fun f => float f.1 f.2
      | _ =>
        if (exponent? rest).isSome then float [] rest
        else
          let n := digitsValue 10 whole
          if n < Nat.pow 2 63 || (negative && n = Nat.pow 2 63) then some (.number, rest) else none

/-- A number after its sign, or the words for one that is none. -/
def scanSigned (negative : Bool) : Scan Setting := fun cs =>
  match (word? "inf".toList cs).or (word? "nan".toList cs) with
  | some rest => some (.number, rest)
  | none => scanDecimal negative cs

/-- A number. -/
def scanNumber : Scan Setting
  | '+' :: cs => scanSigned false cs
  | '-' :: cs => scanSigned true cs
  | '0' :: 'x' :: cs => scanBased 16 (fun c => (hexValue? c).isSome) cs
  | '0' :: 'o' :: cs => scanBased 8 (fun c => '0' ≤ c && c ≤ '7') cs
  | '0' :: 'b' :: cs => scanBased 2 (fun c => c = '0' || c = '1') cs
  | cs => scanSigned false cs

/-! ### Dates -/

/-- A count of digits as a number that is in a range. -/
def fixedDigits? (count lo hi : Nat) (cs : List Char) : Option (Nat × List Char) :=
  let ds := cs.take count
  if ds.length = count && ds.all Char.isDigit then
    let n := digitsValue 10 ds
    if lo ≤ n && n ≤ hi then some (n, cs.drop count) else none
  else none

/-- The number of days of a month. -/
def daysOf (year month : Nat) : Nat :=
  if month = 2 then
    if year % 4 = 0 && (year % 100 ≠ 0 || year % 400 = 0) then 29 else 28
  else if month = 4 || month = 6 || month = 9 || month = 11 then 30
  else 31

/-- The text after a day of a year. -/
def day? (cs : List Char) : Option (List Char) := do
  let (year, cs) ← fixedDigits? 4 0 9999 cs
  let cs ← word? ['-'] cs
  let (month, cs) ← fixedDigits? 2 1 12 cs
  let cs ← word? ['-'] cs
  let (day, cs) ← fixedDigits? 2 1 31 cs
  if day ≤ daysOf year month then some cs else none

/-- The text after the part of a second, if there is one; `none` if a point has no digits. -/
def secondPart? : List Char → Option (List Char)
  | '.' :: cs => if cs.head?.any Char.isDigit then some (cs.dropWhile Char.isDigit) else none
  | cs => some cs

/-- The text after a time of day. -/
def time? (cs : List Char) : Option (List Char) := do
  let (_, cs) ← fixedDigits? 2 0 23 cs
  let cs ← word? [':'] cs
  let (_, cs) ← fixedDigits? 2 0 59 cs
  let cs ← word? [':'] cs
  let (_, cs) ← fixedDigits? 2 0 60 cs
  secondPart? cs

/-- The text after the distance of a time zone, if there is one. -/
def zone? : List Char → Option (List Char)
  | c :: cs =>
    if c = 'Z' || c = 'z' then some cs
    else if c = '+' || c = '-' then do
      let (_, cs) ← fixedDigits? 2 0 23 cs
      let cs ← word? [':'] cs
      let (_, cs) ← fixedDigits? 2 0 59 cs
      some cs
    else some (c :: cs)
  | [] => some []

/-- `startsWithDigits count next cs` tells whether `cs` starts with `count` digits and then the
character `next`. -/
def startsWithDigits (count : Nat) (next : Char) (cs : List Char) : Bool :=
  (cs.take count).length = count && (cs.take count).all Char.isDigit &&
    (cs.drop count).head? = some next

/-- The text after a day and the time that may follow it. -/
def moment? (cs : List Char) : Option (List Char) := do
  let rest ← day? cs
  match rest with
  | c :: more =>
    if c = 'T' || c = 't' || (c = ' ' && startsWithDigits 2 ':' more) then
      let more ← time? more
      zone? more
    else some rest
  | [] => some rest

/-- A date, which is a table of one text. -/
def dateSetting (cs rest : List Char) : Setting :=
  .table [("$__toml_private_datetime", .text (String.ofList (cs.take (cs.length - rest.length))))]

/-- A date, a time of day, or both. -/
def scanDate : Scan Setting := fun cs =>
  let after := if startsWithDigits 4 '-' cs then moment? cs else time? cs
  after.map fun rest => (dateSetting cs rest, rest)

/-- `startsDate cs` tells whether `cs` is the start of a date or a time of day. -/
def startsDate (cs : List Char) : Bool := startsWithDigits 4 '-' cs || startsWithDigits 2 ':' cs

end Codemod.Settings
