import Codemod.Error
import Codemod.Template

/-!
# Replacements

A replacement gives new text for old.  How it is applied is decided from how it is declared: a
regular expression replaces its matches, and any other old text is replaced where it stands as a
whole word.  Old text that is an identifier can also be renamed through a syntax tree.

## Main definitions

* `Replacement` — as it is declared.
* `Rule` — ready to be applied.
* `Replacement.compile` — a replacement made ready, or why it cannot be.
* `replaceWords` — replaces the whole words that are a given text.
* `Rule.applyToText`, `applyAll` — the new text of a whole text.
-/

namespace Codemod

/-- New text for old, as it is declared. -/
structure Replacement where
  old : String
  new : String
  isRegex : Bool
  deriving DecidableEq, Repr, Inhabited

/-- How a replacement is applied. -/
inductive ReplacementKind
  /-- The old text is an identifier. -/
  | identifier
  /-- The old text is any other text. -/
  | literal
  /-- The old text is a regular expression. -/
  | regexRule
  deriving DecidableEq, Repr, Inhabited

/-- `isIdentifierChar c` tells whether `c` can continue an identifier. -/
def isIdentifierChar (c : Char) : Bool := c.isAlphanum || c = '_' || c = '$'

/-- `isIdentifier cs` tells whether `cs` is an identifier. -/
def isIdentifier : List Char → Bool
  | [] => false
  | c :: cs => (c.isAlpha || c = '_' || c = '$') && cs.all isIdentifierChar

/-- How a replacement is applied. -/
def Replacement.kind (r : Replacement) : ReplacementKind :=
  if r.isRegex then .regexRule
  else if isIdentifier r.old.toList then .identifier
  else .literal

/-- A replacement ready to be applied. -/
inductive Rule
  /-- Whole words are replaced. -/
  | word (old new : List Char)
  /-- Matches are replaced. -/
  | regex (old new : List Char) (program : Regex.Program) (template : Template)
  deriving Inhabited

namespace Rule

/-- The old text. -/
def old : Rule → List Char
  | word old _ => old
  | regex old _ _ _ => old

/-- The new text, or the template of it. -/
def new : Rule → List Char
  | word _ new => new
  | regex _ new _ _ => new

/-- How the rule is applied. -/
def kind : Rule → ReplacementKind
  | word old _ => if isIdentifier old then .identifier else .literal
  | regex _ _ _ _ => .regexRule

/-- The identifier that the rule renames. -/
def identifier? (r : Rule) : Option (List Char) :=
  if r.kind = .identifier then some r.old else none

theorem identifier?_eq_some_iff {r : Rule} {name : List Char} :
    r.identifier? = some name ↔ isIdentifier name = true ∧ ∃ new, r = word name new := by
  cases r with
  | word old new =>
    by_cases h : isIdentifier old = true
    · simp only [identifier?, kind, h, if_true, Rule.old, Option.some.injEq, word.injEq]
      exact ⟨fun heq => ⟨heq ▸ h, new, heq, rfl⟩, fun ⟨_, _, heq, _⟩ => heq⟩
    · simp only [identifier?, kind, h, word.injEq]
      exact ⟨fun heq => by simp at heq, fun ⟨hname, _, heq, _⟩ => absurd (heq ▸ hname) h⟩
  | regex old new program template => simp [identifier?, kind]

theorem isSome_identifier?_iff {r : Rule} :
    r.identifier?.isSome = true ↔ r.kind = .identifier := by
  by_cases h : r.kind = .identifier <;> simp [identifier?, h]

end Rule

/-- Makes a replacement ready. -/
def Replacement.compile (regex : Regex.Compiler) (r : Replacement) : Except MigrationError Rule :=
  if r.old.isEmpty then .error (.ruleSetInvalid "replacement 'from' must not be empty")
  else if r.isRegex then
    match regex r.old.toList with
    | .error reason => .error (.regex r.old reason)
    | .ok program =>
      let template := Template.parse program.groups (!program.names.isEmpty) r.new.toList
      .ok (.regex r.old.toList r.new.toList program template)
  else .ok (.word r.old.toList r.new.toList)

/-! ### Whole words -/

/-- `startsWithWord cs` tells whether `cs`, after a word, starts with a character that would
lengthen it. -/
def startsWithWord : List Char → Bool
  | [] => false
  | c :: _ => isIdentifierChar c

/-- `isBounded old prev rest` tells whether `old`, which ends before `rest` and starts after
`prev`, is a whole word.  An end of it that is an identifier character must not touch another. -/
def isBounded (old : List Char) (prev : Option Char) (rest : List Char) : Bool :=
  !(startsWithWord old && prev.any isIdentifierChar) &&
    !(old.getLast?.any isIdentifierChar && startsWithWord rest)

/-- Replaces whole words from a place on.  `prev` is the character before the place in the text as
it was, and `skip` characters belong to a word that has been replaced. -/
def replaceWordsFrom (old new : List Char) : (prev : Option Char) → (skip : Nat) → List Char →
    List Char
  | _, _, [] => []
  | _, skip + 1, c :: rest => replaceWordsFrom old new (some c) skip rest
  | prev, 0, c :: rest =>
    if old.isPrefixOf (c :: rest) && isBounded old prev ((c :: rest).drop old.length) then
      new ++ replaceWordsFrom old new (some c) (old.length - 1) rest
    else c :: replaceWordsFrom old new (some c) 0 rest

/-- Replaces every occurrence of a text as a whole word, from left to right. -/
def replaceWords (old new text : List Char) : List Char := replaceWordsFrom old new none 0 text

/-! ### Whole texts -/

/-- What a template needs to know of a match in a text. -/
def captureOf (program : Regex.Program) (text : Array Char) (m : Regex.Match) : Template.Capture :=
  let cut (p : Nat × Nat) : List Char := (text.extract p.1 p.2).toList
  let group (i : Nat) : Option (List Char) := ((m.groups[i]?).getD none).map cut
  { before := (text.extract 0 m.start).toList
    whole := cut (m.start, m.stop)
    after := (text.extract m.stop text.size).toList
    group
    named := fun name => (program.names.lookup (String.ofList name)).bind group }

/-- Replaces matches by their texts, from left to right. -/
def replaceMatches (text : Array Char) (expand : Regex.Match → List Char) :
    (pos : Nat) → List Regex.Match → List Char
  | pos, [] => (text.extract pos text.size).toList
  | pos, m :: ms => (text.extract pos m.start).toList ++ expand m ++ replaceMatches text expand m.stop ms

/-- Applies a rule to a whole text, whatever its syntax. -/
def Rule.applyToText (r : Rule) (text : List Char) : List Char :=
  match r with
  | .word old new => replaceWords old new text
  | .regex _ _ program template =>
    let chars := text.toArray
    replaceMatches chars (fun m => template.expand (captureOf program chars m)) 0
      (program.matches chars)

/-- Applies rules to a whole text, one after another. -/
def applyAll (rules : List Rule) (text : List Char) : List Char :=
  rules.foldl (fun t r => r.applyToText t) text

/-- Makes replacements ready; the first that cannot be is the answer. -/
def compileAll (regex : Regex.Compiler) : List Replacement → Except MigrationError (List Rule)
  | [] => .ok []
  | r :: rs => do
    let rule ← r.compile regex
    let rules ← compileAll regex rs
    return rule :: rules

end Codemod
