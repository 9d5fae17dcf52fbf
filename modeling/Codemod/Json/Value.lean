/-!
# Documents

A document is a tree of values, written without blanks or over several lines.

## Main definitions

* `Value` — a document.
* `Value.compact` — a document without blanks.
* `Value.pretty` — a document over several lines.
-/

namespace Codemod.Json

/-- A document. -/
inductive Value
  | null
  | bool (b : Bool)
  | number (n : Nat)
  | string (s : String)
  | array (items : List Value)
  /-- The fields in their order. -/
  | object (fields : List (String × Value))
  deriving Inhabited

/-- A digit of base 16. -/
def hexDigit (n : Nat) : Char := Nat.digitChar n

/-- A character as it stands in a string. -/
def escapeChar (c : Char) : List Char :=
  if c = '\x22' then ['\\', '\x22']
  else if c = '\\' then ['\\', '\\']
  else if c = '\n' then ['\\', 'n']
  else if c = '\r' then ['\\', 'r']
  else if c = '\t' then ['\\', 't']
  else if c.toNat = 8 then ['\\', 'b']
  else if c.toNat = 12 then ['\\', 'f']
  else if c.toNat < 0x20 then
    ['\\', 'u', '0', '0', hexDigit (c.toNat / 16), hexDigit (c.toNat % 16)]
  else [c]

/-- A string in quotes. -/
def renderString (s : String) : List Char :=
  '\x22' :: (s.toList.flatMap escapeChar ++ ['\x22'])

/-- Texts with a separator between them. -/
def joinWith (sep : List Char) : List (List Char) → List Char
  | [] => []
  | [t] => t
  | t :: ts => t ++ sep ++ joinWith sep ts

namespace Value

mutual

/-- A document without blanks. -/
def compact : Value → List Char
  | null => "null".toList
  | bool b => (if b then "true" else "false").toList
  | number n => Nat.toDigits 10 n
  | string s => renderString s
  | array items => '[' :: (joinWith [','] (compactItems items) ++ [']'])
  | object fields => '\x7b' :: (joinWith [','] (compactFields fields) ++ ['\x7d'])

/-- The items of a list without blanks. -/
def compactItems : List Value → List (List Char)
  | [] => []
  | v :: vs => v.compact :: compactItems vs

/-- The fields of an object without blanks. -/
def compactFields : List (String × Value) → List (List Char)
  | [] => []
  | (k, v) :: fs => (renderString k ++ ':' :: v.compact) :: compactFields fs

end

/-- A new line with the indentation of a depth. -/
def newLine (depth : Nat) : List Char := '\n' :: List.replicate (2 * depth) ' '

/-- Items between brackets, each on a line of its own. -/
def block (opening closing : Char) (depth : Nat) (items : List (List Char)) : List Char :=
  if items.isEmpty then [opening, closing]
  else
    opening :: (newLine (depth + 1) ++ joinWith (',' :: newLine (depth + 1)) items ++
      newLine depth ++ [closing])

mutual

/-- A document over several lines, from a depth on. -/
def prettyAt (depth : Nat) : Value → List Char
  | null => "null".toList
  | bool b => (if b then "true" else "false").toList
  | number n => Nat.toDigits 10 n
  | string s => renderString s
  | array items => block '[' ']' depth (prettyItems (depth + 1) items)
  | object fields => block '\x7b' '\x7d' depth (prettyFields (depth + 1) fields)

/-- The items of a list over several lines. -/
def prettyItems (depth : Nat) : List Value → List (List Char)
  | [] => []
  | v :: vs => v.prettyAt depth :: prettyItems depth vs

/-- The fields of an object over several lines. -/
def prettyFields (depth : Nat) : List (String × Value) → List (List Char)
  | [] => []
  | (k, v) :: fs => (renderString k ++ [':', ' '] ++ v.prettyAt depth) :: prettyFields depth fs

end

/-- A document over several lines. -/
def pretty (v : Value) : List Char := v.prettyAt 0

end Value

end Codemod.Json
