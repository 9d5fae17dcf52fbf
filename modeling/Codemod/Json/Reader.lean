import Codemod.Json.Binary64
import Codemod.Text.Bytes
import Codemod.Text.Quoted

/-!
# Reading documents

A document is read from left to right into values of known types.  The first thing that is out of
place, in the text or in what it says, is the reason for a failure.  Values that nobody asks for are
passed over without being looked at closely.

## Main definitions

* `Failure` — why a document is refused.
* `Reader` — a reader of the first part of a text.
* `readString`, `readBool`, `readOption`, `readList`, `readFields`, `readRecord` — the readers.
* `skipValue` — passes over a value.
* `readDocument` — reads a whole document.
-/

namespace Codemod.Json

/-- What stands where something else is expected. -/
inductive Found
  | null
  | bool (b : Bool)
  | integer (n : Int)
  | float (negative : Bool) (x : Binary64)
  | string (s : List Char)
  | sequence
  | map
  deriving DecidableEq, Repr, Inhabited

/-- The words for what is found. -/
def Found.describe : Found → String
  | null => "null"
  | bool b => "boolean `" ++ toString b ++ "`"
  | integer n => "integer `" ++ toString n ++ "`"
  | float negative x =>
    "floating point `" ++ (if negative then "-" else "") ++ String.ofList x.render ++ "`"
  | string s => "string " ++ String.ofList (Text.quote s)
  | sequence => "sequence"
  | map => "map"

/-- Why a document is refused. -/
inductive Failure
  | eofList | eofObject | eofString | eofValue
  | expectedColon | expectedListComma | expectedObjectComma
  | expectedIdent | expectedValue
  | invalidEscape | invalidNumber | numberOutOfRange
  | loneSurrogate | unexpectedEndOfEscape
  | controlCharacter | keyMustBeString
  | trailingCharacters | trailingComma
  /-- A value is not of the type that is expected. -/
  | invalidType (found : Found) (wanted : String)
  /-- A record written as a list is too short. -/
  | invalidLength (length : Nat) (wanted : String)
  | duplicateField (name : String)
  | missingField (name : String)
  deriving DecidableEq, Repr, Inhabited

/-- `f.isData` tells whether the text was well formed, and only what it says was refused. -/
def Failure.isData : Failure → Bool
  | invalidType _ _ | invalidLength _ _ | duplicateField _ | missingField _ => true
  | _ => false

/-- The words for a refusal. -/
def Failure.message : Failure → String
  | eofList => "EOF while parsing a list"
  | eofObject => "EOF while parsing an object"
  | eofString => "EOF while parsing a string"
  | eofValue => "EOF while parsing a value"
  | expectedColon => "expected `:`"
  | expectedListComma => "expected `,` or `]`"
  | expectedObjectComma => "expected `,` or `\x7d`"
  | expectedIdent => "expected ident"
  | expectedValue => "expected value"
  | invalidEscape => "invalid escape"
  | invalidNumber => "invalid number"
  | numberOutOfRange => "number out of range"
  | loneSurrogate => "lone leading surrogate in hex escape"
  | unexpectedEndOfEscape => "unexpected end of hex escape"
  | controlCharacter => "control character (\\u0000-\\u001F) found while parsing a string"
  | keyMustBeString => "key must be a string"
  | trailingCharacters => "trailing characters"
  | trailingComma => "trailing comma"
  | invalidType found wanted => "invalid type: " ++ found.describe ++ ", expected " ++ wanted
  | invalidLength n wanted => "invalid length " ++ toString n ++ ", expected " ++ wanted
  | duplicateField name => "duplicate field `" ++ name ++ "`"
  | missingField name => "missing field `" ++ name ++ "`"

/-- A reader of the first part of a text: what it says and the rest. -/
abbrev Reader (α : Type) := List Char → Except Failure (α × List Char)

/-- `isBlank c` tells whether `c` is a blank. -/
def isBlank (c : Char) : Bool := c = ' ' || c = '\n' || c = '\t' || c = '\r'

/-- The text from the first character on that is no blank. -/
def skipBlanks (cs : List Char) : List Char := cs.dropWhile isBlank

/-- The rest of a word whose first character has been read. -/
def readWord : (word : List Char) → Reader Unit
  | [], cs => .ok ((), cs)
  | _ :: _, [] => .error .eofValue
  | w :: ws, c :: cs => if c = w then readWord ws cs else .error .expectedIdent

/-! ### Strings -/

/-- The value of a digit of base 16. -/
def hexValue? (c : Char) : Option Nat :=
  if c.isDigit then some (c.toNat - '0'.toNat)
  else if 'a' ≤ c && c ≤ 'f' then some (c.toNat - 'a'.toNat + 10)
  else if 'A' ≤ c && c ≤ 'F' then some (c.toNat - 'A'.toNat + 10)
  else none

/-- The number that four digits of base 16 spell. -/
def readHex4 (cs : List Char) : Except Failure Nat :=
  if Text.blen (cs.take 4) < 4 then .error .eofString
  else
    match cs with
    | a :: b :: c :: d :: _ =>
      match hexValue? a, hexValue? b, hexValue? c, hexValue? d with
      | some a, some b, some c, some d => .ok (((a * 16 + b) * 16 + c) * 16 + d)
      | _, _, _, _ => .error .invalidEscape
    | _ => .error .invalidEscape

/-- `isLeadingHalf n` tells whether `n` is the first half of a character that takes two. -/
def isLeadingHalf (n : Nat) : Bool := 0xD800 ≤ n && n ≤ 0xDBFF

/-- `isTrailingHalf n` tells whether `n` is the second half of a character that takes two. -/
def isTrailingHalf (n : Nat) : Bool := 0xDC00 ≤ n && n ≤ 0xDFFF

/-- The character whose number stands after `\u`, and the length of the escape after the `u`. -/
def readUnicodeEscape (cs : List Char) : Except Failure (Char × Nat) := do
  let n ← readHex4 cs
  if isTrailingHalf n then throw .loneSurrogate
  else if isLeadingHalf n then
    match cs.drop 4 with
    | [] => throw .eofString
    | '\\' :: [] => throw .eofString
    | '\\' :: 'u' :: rest =>
      let m ← readHex4 rest
      if isTrailingHalf m then
        return (Char.ofNat ((n - 0xD800) * 0x400 + (m - 0xDC00) + 0x10000), 10)
      else throw .loneSurrogate
    | _ => throw .unexpectedEndOfEscape
  else return (Char.ofNat n, 4)

/-- The character that one letter after a backslash stands for. -/
def simpleEscape? (c : Char) : Option Char :=
  if c = '\x22' || c = '\\' || c = '/' then some c
  else if c = 'b' then some (Char.ofNat 8)
  else if c = 'f' then some (Char.ofNat 12)
  else if c = 'n' then some '\n'
  else if c = 'r' then some '\r'
  else if c = 't' then some '\t'
  else none

/-- The character that an escape stands for, and the length of the escape after the backslash. -/
def readEscape : List Char → Except Failure (Char × Nat)
  | [] => .error .eofString
  | c :: cs =>
    match simpleEscape? c with
    | some d => .ok (d, 1)
    | none => if c = 'u' then (readUnicodeEscape cs).map fun p => (p.1, p.2 + 1)
      else .error .invalidEscape

/-- The rest of a string; `skip` characters belong to an escape that has been read. -/
def readStringFrom : (skip : Nat) → Reader (List Char)
  | _, [] => .error .eofString
  | skip + 1, _ :: cs => readStringFrom skip cs
  | 0, c :: cs =>
    if c = '\x22' then .ok ([], cs)
    else if c = '\\' then
      match readEscape cs with
      | .error e => .error e
      | .ok (d, n) => (readStringFrom n cs).map fun p => (d :: p.1, p.2)
    else if c.toNat < 0x20 then .error .controlCharacter
    else (readStringFrom 0 cs).map fun p => (c :: p.1, p.2)

/-- The length of an escape after the backslash, whatever it stands for. -/
def skipEscape : List Char → Except Failure Nat
  | [] => .error .eofString
  | c :: cs =>
    if (simpleEscape? c).isSome then .ok 1
    else if c = 'u' then (readHex4 cs).map fun _ => 5
    else .error .invalidEscape

/-- Passes over the rest of a string. -/
def skipStringFrom : (skip : Nat) → Reader Unit
  | _, [] => .error .eofString
  | skip + 1, _ :: cs => skipStringFrom skip cs
  | 0, c :: cs =>
    if c = '\x22' then .ok ((), cs)
    else if c = '\\' then
      match skipEscape cs with
      | .error e => .error e
      | .ok n => skipStringFrom n cs
    else if c.toNat < 0x20 then .error .controlCharacter
    else skipStringFrom 0 cs

/-! ### Numbers -/

/-- The most that the digits of a number may amount to before they are only counted. -/
def digitLimit : Nat := Nat.pow 2 64 - 1

/-- The value of a decimal digit. -/
def digitValue (c : Char) : Nat := c.toNat - '0'.toNat

/-- The first digits of a text that amount to no more than the limit after `n`, and the rest. -/
def takeDigits : (n : Nat) → List Char → Nat × List Char
  | n, [] => (n, [])
  | n, c :: cs =>
    if c.isDigit && 10 * n + digitValue c ≤ digitLimit then takeDigits (10 * n + digitValue c) cs
    else (n, c :: cs)

/-- The digits `n` moved by a power of ten.  Far powers are taken in steps, as long as there are
any. -/
def floatOfParts (fuel : Nat) (n : Nat) (e : Int) : Except Failure Binary64 :=
  let rec go : Nat → Binary64 → Int → Except Failure Binary64
    | 0, x, _ => .ok x
    | fuel + 1, x, e =>
      if e.natAbs ≤ 308 then
        match x.scale? e with
        | some y => .ok y
        | none => .error .numberOutOfRange
      else if x.mantissa = 0 then .ok x
      else if 0 ≤ e then .error .numberOutOfRange
      else
        match x.scale? (-308) with
        | some y => go fuel y (e + 308)
        | none => .error .numberOutOfRange
  match Binary64.ofNat? n with
  | some x => go fuel x e
  | none => .error .numberOutOfRange

/-- How often a number can be divided before nothing is left of it. -/
def floatSteps : Nat := 8

/-- The greatest power of ten that is read. -/
def exponentLimit : Nat := Nat.pow 2 31 - 1

/-- A number in the range of powers that are counted. -/
def clampExponent (e : Int) : Int := max (-exponentLimit - 1) (min e exponentLimit)

/-- Reads the power of ten of a number; the text starts with the letter for it. -/
def readExponent (n : Nat) (e : Int) (cs : List Char) : Except Failure (Binary64 × List Char) := do
  let cs := cs.drop 1
  let (negative, cs) := match cs with
    | '+' :: rest => (false, rest)
    | '-' :: rest => (true, rest)
    | _ => (false, cs)
  match cs with
  | [] => throw .eofValue
  | c :: _ =>
    if !c.isDigit then throw .invalidNumber
    else
      let digits := cs.takeWhile Char.isDigit
      let rest := cs.dropWhile Char.isDigit
      let power := digits.foldl (fun k d => 10 * k + digitValue d) 0
      if exponentLimit < power then
        if n ≠ 0 && !negative then throw .numberOutOfRange else return (⟨0, 0⟩, rest)
      else
        let e := if negative then e - power else e + power
        let x ← floatOfParts floatSteps n (clampExponent e)
        return (x, rest)

/-- `startsExponent cs` tells whether `cs` starts with the letter for a power of ten. -/
def startsExponent : List Char → Bool
  | c :: _ => c = 'e' || c = 'E'
  | [] => false

/-- Reads the rest of a number after its digits, with or without a power of ten. -/
def finishFloat (n : Nat) (e : Int) (cs : List Char) : Except Failure (Binary64 × List Char) :=
  if startsExponent cs then readExponent n e cs
  else (floatOfParts floatSteps n e).map fun x => (x, cs)

/-- Reads the fraction of a number; the text starts with the point. -/
def readFraction (n : Nat) (e : Int) (cs : List Char) : Except Failure (Binary64 × List Char) :=
  let cs := cs.drop 1
  let (m, rest) := takeDigits n cs
  let e := e - ((cs.length : Int) - rest.length)
  match rest with
  | c :: _ =>
    if c.isDigit then finishFloat m e (rest.dropWhile Char.isDigit)
    else if rest.length = cs.length then .error .invalidNumber
    else finishFloat m e rest
  | [] => if cs.isEmpty then .error .eofValue else finishFloat m e rest

/-- Reads a number after its sign. -/
def readNumber (negative : Bool) (cs : List Char) : Except Failure (Found × List Char) :=
  match cs with
  | [] => .error .eofValue
  | c :: cs' =>
    if !c.isDigit then .error .invalidNumber
    else if c = '0' && (cs'.head?.any Char.isDigit) then .error .invalidNumber
    else
      let (n, rest) := if c = '0' then (0, cs') else takeDigits 0 cs
      let float (r : Except Failure (Binary64 × List Char)) : Except Failure (Found × List Char) :=
        r.map fun p => (.float negative p.1, p.2)
      match rest with
      | '.' :: _ => float (readFraction n 0 rest)
      | d :: _ =>
        if d.isDigit then
          let e : Int := (rest.takeWhile Char.isDigit).length
          match rest.dropWhile Char.isDigit with
          | '.' :: more => float (readFraction n e ('.' :: more))
          | more => float (finishFloat n e more)
        else if startsExponent rest then float (readExponent n 0 rest)
        else integer n rest
      | [] => integer n rest
where
  /-- A number without a fraction. -/
  integer (n : Nat) (rest : List Char) : Except Failure (Found × List Char) :=
    if !negative then .ok (.integer n, rest)
    else if n = 0 || Nat.pow 2 63 < n then
      (floatOfParts floatSteps n 0).map fun x => (.float true x, rest)
    else .ok (.integer (-n), rest)

/-- Passes over the power of ten of a number. -/
def skipExponent (cs : List Char) : Except Failure (List Char) :=
  let cs := cs.drop 1
  let cs := match cs with
    | '+' :: rest => rest
    | '-' :: rest => rest
    | _ => cs
  if cs.head?.any Char.isDigit then .ok (cs.dropWhile Char.isDigit) else .error .invalidNumber

/-- Passes over a number after its sign. -/
def skipNumber (cs : List Char) : Except Failure (List Char) :=
  match cs with
  | [] => .error .invalidNumber
  | c :: cs' =>
    if !c.isDigit then .error .invalidNumber
    else if c = '0' && cs'.head?.any Char.isDigit then .error .invalidNumber
    else
      let rest := cs.dropWhile Char.isDigit
      match rest with
      | '.' :: more =>
        if more.head?.any Char.isDigit then
          let rest := more.dropWhile Char.isDigit
          if startsExponent rest then skipExponent rest else .ok rest
        else .error .invalidNumber
      | _ => if startsExponent rest then skipExponent rest else .ok rest

/-! ### Values of a type -/

/-- The refusal of what stands at the start of a text.  It is read first, and refused as it is if it
is out of order itself. -/
def refuse (wanted : String) (cs : List Char) : Failure :=
  let of (r : Except Failure Found) : Failure :=
    match r with
    | .ok found => .invalidType found wanted
    | .error e => e
  match cs with
  | 'n' :: rest => of ((readWord "ull".toList rest).map fun _ => .null)
  | 't' :: rest => of ((readWord "rue".toList rest).map fun _ => .bool true)
  | 'f' :: rest => of ((readWord "alse".toList rest).map fun _ => .bool false)
  | '-' :: rest => of ((readNumber true rest).map (·.1))
  | '\x22' :: rest => of ((readStringFrom 0 rest).map fun p => .string p.1)
  | '[' :: _ => of (.ok .sequence)
  | '\x7b' :: _ => of (.ok .map)
  | c :: _ => if c.isDigit then of ((readNumber false cs).map (·.1)) else .expectedValue
  | [] => .eofValue

/-- Reads a string. -/
def readString : Reader String := fun cs =>
  match skipBlanks cs with
  | '\x22' :: rest => (readStringFrom 0 rest).map fun p => (String.ofList p.1, p.2)
  | rest => .error (refuse "a string" rest)

/-- Reads a truth value. -/
def readBool : Reader Bool := fun cs =>
  match skipBlanks cs with
  | 't' :: rest => (readWord "rue".toList rest).map fun p => (true, p.2)
  | 'f' :: rest => (readWord "alse".toList rest).map fun p => (false, p.2)
  | rest => .error (refuse "a boolean" rest)

/-- Reads a value that may be missing. -/
def readOption {α : Type} (read : Reader α) : Reader (Option α) := fun cs =>
  match skipBlanks cs with
  | 'n' :: rest => (readWord "ull".toList rest).map fun p => (none, p.2)
  | rest => (read rest).map fun p => (some p.1, p.2)

/-- Reads whether there is another item in a list.  The text then starts with it. -/
def nextItem (first : Bool) : Reader Bool := fun cs =>
  match skipBlanks cs with
  | [] => .error .eofList
  | ']' :: rest => .ok (false, ']' :: rest)
  | c :: rest =>
    if first then .ok (true, c :: rest)
    else if c = ',' then
      match skipBlanks rest with
      | [] => .error .eofValue
      | ']' :: _ => .error .trailingComma
      | rest => .ok (true, rest)
    else .error .expectedListComma

/-- Reads the end of a list. -/
def endList : Reader Unit := fun cs =>
  match skipBlanks cs with
  | [] => .error .eofList
  | ']' :: rest => .ok ((), rest)
  | ',' :: rest =>
    match skipBlanks rest with
    | ']' :: _ => .error .trailingComma
    | _ => .error .trailingCharacters
  | _ => .error .trailingCharacters

/-- Reads items up to the end of a list, of which there are no more than `fuel`. -/
def readItems {α : Type} (read : Reader α) : (fuel : Nat) → (first : Bool) → Reader (List α)
  | 0, _, _ => .error .eofList
  | fuel + 1, first, cs => do
    let (more, cs) ← nextItem first cs
    if more then
      let (a, cs) ← read cs
      let (as, cs) ← readItems read fuel false cs
      return (a :: as, cs)
    else return ([], cs)

/-- Reads a list. -/
def readList {α : Type} (read : Reader α) : Reader (List α) := fun cs =>
  match skipBlanks cs with
  | '[' :: rest => do
    let (as, rest) ← readItems read (rest.length + 1) true rest
    let (_, rest) ← endList rest
    return (as, rest)
  | rest => .error (refuse "a sequence" rest)

/-- Reads whether there is another field in an object.  The text then starts with its name. -/
def nextField (first : Bool) : Reader Bool := fun cs =>
  match skipBlanks cs with
  | [] => .error .eofObject
  | '\x7d' :: rest => .ok (false, '\x7d' :: rest)
  | c :: rest =>
    if first then if c = '\x22' then .ok (true, c :: rest) else .error .keyMustBeString
    else if c = ',' then
      match skipBlanks rest with
      | [] => .error .eofValue
      | '\x7d' :: _ => .error .trailingComma
      | '\x22' :: rest => .ok (true, '\x22' :: rest)
      | _ => .error .keyMustBeString
    else .error .expectedObjectComma

/-- Reads the colon between the name and the value of a field. -/
def readColon : Reader Unit := fun cs =>
  match skipBlanks cs with
  | [] => .error .eofObject
  | ':' :: rest => .ok ((), rest)
  | _ => .error .expectedColon

/-- Reads the end of an object. -/
def endObject : Reader Unit := fun cs =>
  match skipBlanks cs with
  | [] => .error .eofObject
  | '\x7d' :: rest => .ok ((), rest)
  | ',' :: _ => .error .trailingComma
  | _ => .error .trailingCharacters

/-- Reads fields up to the end of an object, of which there are no more than `fuel`.  A field is
given its name and what has been read before it. -/
def readFields {σ : Type} (field : String → σ → Reader σ) : (fuel : Nat) → (first : Bool) → σ →
    Reader σ
  | 0, _, _, _ => .error .eofObject
  | fuel + 1, first, s, cs => do
    let (more, cs) ← nextField first cs
    if more then
      let (name, cs) ← readString cs
      let (s, cs) ← field name s cs
      readFields field fuel false s cs
    else return (s, cs)

/-- Reads the fields of an object after its bracket. -/
def readObject {σ : Type} (field : String → σ → Reader σ) (s : σ) : Reader σ := fun cs => do
  let (s, cs) ← readFields field (cs.length + 1) true s cs
  let (_, cs) ← endObject cs
  return (s, cs)

/-- Reads a record, which is an object or the list of its fields. -/
def readRecord {α : Type} (wanted : String) (object list : Reader α) : Reader α := fun cs =>
  match skipBlanks cs with
  | '\x7b' :: rest => object rest
  | '[' :: rest => do
    let (a, rest) ← list rest
    let (_, rest) ← endList rest
    return (a, rest)
  | rest => .error (refuse wanted rest)

/-! ### Values that nobody asks for -/

/-- Passes over the name of a field and its colon. -/
def skipName (cs : List Char) : Except Failure (List Char) :=
  match skipBlanks cs with
  | [] => .error .eofObject
  | '\x22' :: rest => do
    let (_, rest) ← skipStringFrom 0 rest
    match skipBlanks rest with
    | [] => throw .eofObject
    | ':' :: rest => return rest
    | _ => throw .expectedColon
  | _ => .error .keyMustBeString

/-- Passes over the value at the start of a text if it is neither a list nor an object. -/
def skipSimple (cs : List Char) : Except Failure (List Char) :=
  match cs with
  | 'n' :: rest => (readWord "ull".toList rest).map (·.2)
  | 't' :: rest => (readWord "rue".toList rest).map (·.2)
  | 'f' :: rest => (readWord "alse".toList rest).map (·.2)
  | '-' :: rest => skipNumber rest
  | '\x22' :: rest => (skipStringFrom 0 rest).map (·.2)
  | c :: _ => if c.isDigit then skipNumber cs else .error .expectedValue
  | [] => .error .eofValue

/-- Passes over values in any depth, in no more than `fuel` steps.  The brackets that are open stand
in `frames`, the innermost first; `true` marks an object.  With `value` a value comes next, without
it a comma or the end of what is open, and a comma is only taken after a value. -/
def skipIn : (fuel : Nat) → (value comma : Bool) → (frames : List Bool) → List Char →
    Except Failure (List Char)
  | 0, _, _, _, _ => .error .eofValue
  | fuel + 1, true, _, frames, cs =>
    match skipBlanks cs with
    | '[' :: rest => skipIn fuel false false (false :: frames) rest
    | '\x7b' :: rest => skipIn fuel false false (true :: frames) rest
    | rest =>
      match skipSimple rest with
      | .error e => .error e
      | .ok rest => if frames.isEmpty then .ok rest else skipIn fuel false true frames rest
  | _ + 1, false, _, [], cs => .ok cs
  | fuel + 1, false, comma, isObject :: frames, cs =>
    let next (rest : List Char) : Except Failure (List Char) :=
      if isObject then do
        let rest ← skipName rest
        skipIn fuel true false (isObject :: frames) rest
      else skipIn fuel true false (isObject :: frames) rest
    match skipBlanks cs with
    | [] => .error (if isObject then .eofObject else .eofList)
    | c :: rest =>
      if c = ',' && comma then next rest
      else if c = (if isObject then '\x7d' else ']') then
        if frames.isEmpty then .ok rest else skipIn fuel false true frames rest
      else if comma then .error (if isObject then .expectedObjectComma else .expectedListComma)
      else next (c :: rest)

/-- Passes over a value. -/
def skipValue : Reader Unit := fun cs =>
  (skipIn (2 * cs.length + 2) true false [] cs).map fun rest => ((), rest)

/-- Reads a whole document. -/
def readDocument {α : Type} (read : Reader α) (cs : List Char) : Except Failure α := do
  let (a, rest) ← read cs
  if (skipBlanks rest).isEmpty then return a else throw .trailingCharacters

end Codemod.Json
