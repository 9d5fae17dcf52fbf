import Codemod.Log
import Codemod.Text.Property

/-!
# Which events are shown

A filter is a list of directives.  A directive gives the level up to which events are shown, for all
parts of the engine or for those whose names start in a way.  The most specific directive decides.

## Main definitions

* `level?` — the level of a name or number.
* `Directive`, `Directive.parse` — a directive, or why a text is none.
* `Filter`, `Filter.ofText` — the directives of a text.
* `Filter.shows` — whether an event is shown.
-/

namespace Codemod.Log

/-- A text in small letters. -/
def lower (cs : List Char) : List Char := cs.map Char.toLower

/-- The number that a text spells. -/
def number? (cs : List Char) : Option Nat :=
  let digits := match cs with
    | '+' :: ds => ds
    | _ => cs
  if !digits.isEmpty && digits.all Char.isDigit then
    some (digits.foldl (fun n d => 10 * n + (d.toNat - '0'.toNat)) 0)
  else none

/-- The level of a name. -/
def namedLevel? (cs : List Char) : Option Level :=
  [Level.error, .warn, .info, .debug, .trace].find? fun l => lower l.name.toList = lower cs

/-- The level of a number from one. -/
def numberedLevel? (n : Nat) : Option Level :=
  [Level.error, .warn, .info, .debug, .trace].find? fun l => l.rank + 1 = n

/-- The level of a name or number. -/
def level? (s : String) : Option Level :=
  ((number? s.toList).bind numberedLevel?).or (namedLevel? s.toList)

/-- Up to which level events are shown. -/
inductive Bound
  | off
  | upTo (level : Level)
  deriving DecidableEq, Repr, Inhabited

/-- `b.shows l` tells whether an event of level `l` is shown. -/
def Bound.shows (l : Level) : Bound → Bool
  | off => false
  | upTo bound => l.rank ≤ bound.rank

/-- The bound of a name or number. -/
def bound? (cs : List Char) : Option Bound :=
  if number? cs = some 0 || lower cs = "off".toList then some .off
  else if cs.isEmpty then some (.upTo .error)
  else (((number? cs).bind numberedLevel?).or (namedLevel? cs)).map .upTo

/-- For which events a bound holds. -/
structure Directive where
  /-- How the names of the parts of the engine start. -/
  target : Option (List Char)
  /-- The work that the events belong to. -/
  span : Option (List Char)
  bound : Bound
  deriving DecidableEq, Repr, Inhabited

/-- Why a text is no directive. -/
inductive DirectiveError
  | form
  | level
  deriving DecidableEq, Repr, Inhabited

/-- The words for a refusal. -/
def DirectiveError.message : DirectiveError → String
  | form => "invalid filter directive"
  | level => "error parsing level filter: expected one of \"off\", \"error\", \"warn\", " ++
      "\"info\", \"debug\", \"trace\", or a number 0-5"

namespace Directive

/-- A text without blanks at its ends. -/
def trimBlanks (cs : List Char) : List Char :=
  ((cs.dropWhile Text.isWhiteSpace).reverse.dropWhile Text.isWhiteSpace).reverse

/-- The bound after an equals sign. -/
def boundAfter (cs : List Char) : Except DirectiveError Bound :=
  if cs.isEmpty then .ok (.upTo .trace)
  else
    match bound? cs with
    | some b => .ok b
    | none => .error .level

/-- `startsTarget c` tells whether `c` can start the name of a part of the engine. -/
def startsTarget (c : Char) : Bool :=
  c = '-' || c = ':' || c = '_' || c.isAlphanum || 0x80 ≤ c.toNat

/-- A directive for work, after its bracket. -/
def parseSpan (target : Option (List Char)) (cs : List Char) : Except DirectiveError Directive :=
  let name := cs.takeWhile (· ≠ ']')
  match cs.drop name.length with
  | [_] => .ok ⟨target, some name, .upTo .trace⟩
  | _ :: '=' :: bound => (boundAfter bound).map fun b => ⟨target, some name, b⟩
  | _ => .error .form

/-- A directive.  Places are counted without the blanks at the start, and taken from the text with
them. -/
def parse (cs : List Char) : Except DirectiveError Directive :=
  match trimBlanks cs with
  | [] => .error .form
  | '[' :: _ => parseSpan none (cs.drop 1)
  | c :: rest =>
    if !startsTarget c then .error .form
    else
      let place := ((c :: rest).takeWhile fun d => d ≠ '=' && d ≠ '[').length
      match (c :: rest).drop place with
      | '=' :: _ => (boundAfter (cs.drop (place + 1))).map fun b => ⟨some (cs.take place), none, b⟩
      | '[' :: _ => parseSpan (some (cs.take place)) (cs.drop (place + 1))
      | _ =>
        match bound? cs with
        | some b => .ok ⟨none, none, b⟩
        | none => .ok ⟨some cs, none, .upTo .trace⟩

/-- `d.covers target` tells whether the directive `d` speaks of the part `target` of the engine. -/
def covers (target : String) (d : Directive) : Bool :=
  d.target.all fun t => t.isPrefixOf target.toList

/-- How specific a directive is. -/
def weight (d : Directive) : Nat := (d.target.map fun t => t.length + 1).getD 0

end Directive

/-- The directives that decide which events are shown. -/
abbrev Filter := List Directive

namespace Filter

/-- The parts of a text between commas. -/
def splitCommas : List Char → List (List Char)
  | [] => [[]]
  | c :: cs =>
    if c = ',' then [] :: splitCommas cs
    else
      match splitCommas cs with
      | [] => [[c]]
      | p :: ps => (c :: p) :: ps

/-- The directives of a text, and what is said about the parts of it that are none.  Without
directives a level decides. -/
def ofText (text : String) (default : Level) : Filter × List String :=
  let parts := (splitCommas text.toList).filter (!·.isEmpty)
  let read := parts.map fun p => (p, Directive.parse p)
  let directives := read.filterMap fun r => r.2.toOption
  let refused := read.filterMap fun r =>
    match r.2 with
    | .ok _ => none
    | .error e => some ("ignoring `" ++ String.ofList r.1 ++ "`: " ++ e.message)
  (if directives.isEmpty then [⟨none, none, .upTo default⟩] else directives, refused)

/-- The directive that decides for a part of the engine: the most specific, and of those the last. -/
def decisive? (f : Filter) (target : String) : Option Directive :=
  f.foldl (fun best d =>
    if d.span.isNone && d.covers target && best.all fun (b : Directive) => b.weight ≤ d.weight then
      some d
    else best) none

/-- `f.showsLevel target l` tells whether the directives for all work show the level `l` of the
part `target` of the engine. -/
def showsLevel (f : Filter) (target : String) (l : Level) : Bool :=
  (f.decisive? target).any fun d => d.bound.shows l

/-- The directives that speak of the piece of work `s`. -/
def speaksOf (f : Filter) (s : Span) : List Directive :=
  f.filter fun d => d.span = some s.name.toList && d.covers s.target

/-- `f.showsSpan s` tells whether the piece of work `s` is told. -/
def showsSpan (f : Filter) (s : Span) : Bool :=
  f.showsLevel s.target s.level || !(f.speaksOf s).isEmpty

/-- `f.shows e` tells whether the event `e` is shown. -/
def shows (f : Filter) (e : Event) : Bool :=
  f.showsLevel e.target e.level ||
    e.spans.any fun s => (f.speaksOf s).any fun d => d.bound.shows e.level

end Filter

end Codemod.Log
