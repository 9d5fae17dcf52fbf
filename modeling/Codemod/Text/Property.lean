import Codemod.Text.Property.Binary
import Codemod.Text.Property.CaseFold
import Codemod.Text.Property.GeneralCategory
import Codemod.Text.Property.Script
import Codemod.Text.Property.ScriptExtension

/-!
# Looking up character properties by name

Names of properties and of their values are compared loosely: case, blanks, hyphens, underscores
and a leading `is` do not count.

## Main definitions

* `normalizeName` — the form in which names are compared.
* `binary?`, `generalCategory?`, `script?` — the characters of a property or value.
* `decimalDigits`, `whiteSpace`, `wordChars` — digits, white space and the characters of words.
-/

namespace Codemod.Text

/-- The form in which names of properties are compared. -/
def normalizeName (name : String) : String :=
  let cs := name.toList
  let startsWithIs := (cs.take 2).map Char.toLower == ['i', 's']
  let rest := if startsWithIs then cs.drop 2 else cs
  let kept := (rest.filter fun c => c ≠ ' ' && c ≠ '_' && c ≠ '-' && c.toNat < 128).map Char.toLower
  -- The prefix is no prefix in the abbreviation of a comment property.
  if startsWithIs && kept == ['c'] then "isc" else String.ofList kept

/-- Finds the stored form of a set under a normalised name or an abbreviation of it. -/
def lookup? (table names : List (String × String)) (name : String) : Option CharSet :=
  ((table.lookup name).or ((names.lookup name).bind fun n => table.lookup n)).map CharSet.decode

/-- The characters that have a binary property. -/
def binary? (name : String) : Option CharSet := lookup? binaryProperties binaryPropertyNames name

/-- The characters of a general category or of a group of categories. -/
def generalCategory? (name : String) : Option CharSet :=
  match name with
  | "any" => some CharSet.all
  | "ascii" => some (CharSet.interval 0 0x7F)
  | "assigned" => (lookup? generalCategories generalCategoryNames "cn").map CharSet.compl
  | _ =>
    match generalCategoryGroups.lookup name with
    | some parts =>
      some <| parts.foldl (fun s part =>
        s.union ((lookup? generalCategories generalCategoryNames part).getD CharSet.empty))
        CharSet.empty
    | none => lookup? generalCategories generalCategoryNames name

/-- The characters of a script. -/
def script? (name : String) : Option CharSet := lookup? scripts scriptNames name

/-- The characters used with a script. -/
def scriptExtension? (name : String) : Option CharSet :=
  lookup? scriptExtensions scriptNames name

/-- Decimal digits. -/
def decimalDigits : CharSet := (generalCategory? "nd").getD CharSet.empty

/-- White space. -/
def whiteSpace : CharSet := (binary? "whitespace").getD CharSet.empty

/-- The characters of words: letters, marks, digits, connectors and joiners. -/
def wordChars : CharSet :=
  let part (s : Option CharSet) : List Interval := (s.getD CharSet.empty).intervals
  CharSet.ofIntervals (part (binary? "alphabetic") ++ part (generalCategory? "m") ++
    decimalDigits.intervals ++ part (generalCategory? "pc") ++ part (binary? "joincontrol"))

/-- `isWhiteSpace c` tells whether `c` is white space. -/
def isWhiteSpace (c : Char) : Bool := whiteSpace.contains c

/-- `isWordChar c` tells whether `c` is one of words.  ASCII characters are told without the
table. -/
def isWordChar (c : Char) : Bool :=
  if c.toNat < 128 then c.isAlphanum || c = '_' else wordChars.contains c

end Codemod.Text
