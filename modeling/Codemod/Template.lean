import Codemod.Regex.Program

/-!
# Replacement templates

The text that replaces a match of a regular expression may refer to the match and its groups by
marks that start with a dollar sign.  A mark for a group that the pattern does not have is text.

## Main definitions

* `TemplatePart`, `Template` — text and references to the match.
* `Template.parse` — reads a template for a pattern with some groups.
* `Template.expand` — the text for one match.
-/

namespace Codemod

/-- A part of a template. -/
inductive TemplatePart
  | text (cs : List Char)
  /-- The group of this number. -/
  | group (index : Nat)
  /-- The group of this name. -/
  | named (name : List Char)
  /-- The whole match. -/
  | whole
  /-- The text before the match. -/
  | before
  /-- The text after the match. -/
  | after
  deriving DecidableEq, Repr, Inhabited

/-- A template. -/
abbrev Template := List TemplatePart

namespace Template

/-- The value of a digit. -/
def digit? (c : Char) : Option Nat := if c.isDigit then some (c.toNat - '0'.toNat) else none

/-- The number of the group that digits after a dollar sign name, and how many digits do. -/
def groupRef? (groups : Nat) : List Char → Option (Nat × Nat)
  | [] => none
  | c :: rest => do
    let one ← digit? c
    let two := (rest.head?.bind digit?).map fun d => 10 * one + d
    match two.filter fun n => 1 ≤ n && n ≤ groups with
    | some n => some (n, 2)
    | none => if 1 ≤ one && one ≤ groups then some (one, 1) else none

/-- The part that a dollar sign opens, and how many of the characters after the sign belong to it;
`none` if the sign is text. -/
def reference? (groups : Nat) (hasNames : Bool) (rest : List Char) : Option (TemplatePart × Nat) :=
  match rest with
  | '$' :: _ => some (.text ['$'], 1)
  | '&' :: _ => some (.whole, 1)
  | '\x60' :: _ => some (.before, 1)
  | '\x27' :: _ => some (.after, 1)
  | '<' :: tail =>
    if hasNames && tail.contains '>' then
      let name := tail.takeWhile (· ≠ '>')
      some (.named name, name.length + 2)
    else none
  | _ => (groupRef? groups rest).map fun r => (.group r.1, r.2)

/-- Adds text before the parts of a template. -/
def consText (c : Char) : Template → Template
  | .text cs :: parts => .text (c :: cs) :: parts
  | parts => .text [c] :: parts

/-- Reads a template; `skip` characters belong to a mark that has been read. -/
def parseFrom (groups : Nat) (hasNames : Bool) : (skip : Nat) → List Char → Template
  | _, [] => []
  | skip + 1, _ :: rest => parseFrom groups hasNames skip rest
  | 0, c :: rest =>
    if c = '$' then
      match reference? groups hasNames rest with
      | some (.text _, n) => consText '$' (parseFrom groups hasNames n rest)
      | some (part, n) => part :: parseFrom groups hasNames n rest
      | none => consText '$' (parseFrom groups hasNames 0 rest)
    else consText c (parseFrom groups hasNames 0 rest)

/-- Reads a template for a pattern with a number of groups, of which some may have names. -/
def parse (groups : Nat) (hasNames : Bool) (cs : List Char) : Template :=
  parseFrom groups hasNames 0 cs

/-- What a template needs to know of a match. -/
structure Capture where
  before : List Char
  whole : List Char
  after : List Char
  /-- The text of a group; `none` if the group took no part in the match. -/
  group : Nat → Option (List Char)
  /-- The text of a named group. -/
  named : List Char → Option (List Char)

/-- The text of a part for one match. -/
def expandPart (m : Capture) : TemplatePart → List Char
  | .text cs => cs
  | .group index => (m.group index).getD []
  | .named name => (m.named name).getD []
  | .whole => m.whole
  | .before => m.before
  | .after => m.after

/-- The text for one match. -/
def expand (t : Template) (m : Capture) : List Char := t.flatMap (expandPart m)

end Template

end Codemod
