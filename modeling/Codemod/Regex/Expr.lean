import Codemod.Regex.Pattern
import Codemod.Text.Property

/-!
# Patterns with their flags applied

## Main definitions

* `Expr` — a regular expression over sets of characters.
* `Flags` — the flags in force at a place of the pattern.
* `Expr.ofPattern` — applies the flags of a pattern, or says why the pattern is refused.
-/

namespace Codemod.Regex

open Codemod.Text

/-- Conditions on a place in the text.  The flag of a condition on words tells whether words are
those of Unicode or of ASCII. -/
inductive Look
  | startText | endText
  /-- After a line feed. -/
  | startLine
  | endLine
  /-- After a line break of one or two characters. -/
  | startCrlfLine
  | endCrlfLine
  | boundary (unicode : Bool)
  | notBoundary (unicode : Bool)
  | wordStart (unicode : Bool)
  | wordEnd (unicode : Bool)
  | wordStartHalf (unicode : Bool)
  | wordEndHalf (unicode : Bool)
  deriving DecidableEq, Repr, Inhabited

/-- A regular expression. -/
inductive Expr
  | empty
  | chars (set : CharSet)
  | look (l : Look)
  | repeat (sub : Expr) (min : Nat) (max : Option Nat) (greedy : Bool)
  | capture (index : Nat) (name : Option String) (sub : Expr)
  | concat (parts : List Expr)
  | alt (branches : List Expr)

instance : Inhabited Expr := ⟨.empty⟩

mutual

/-- `e.onlyEmpty` tells whether `e` can match nothing but the empty text. -/
def Expr.onlyEmpty : Expr → Bool
  | .empty => true
  | .chars _ => false
  | .look _ => true
  | .repeat sub _ max _ => max == some 0 || sub.onlyEmpty
  | .capture _ _ sub => sub.onlyEmpty
  | .concat parts => allOnlyEmpty parts
  | .alt branches => allOnlyEmpty branches

/-- `allOnlyEmpty es` tells whether the expressions `es` can match nothing but the empty text. -/
def allOnlyEmpty : List Expr → Bool
  | [] => true
  | e :: es => e.onlyEmpty && allOnlyEmpty es

end

mutual

/-- `e.consumes` tells whether every match of `e` holds at least one character. -/
def Expr.consumes : Expr → Bool
  | .empty => false
  | .chars set => !set.intervals.isEmpty
  | .look _ => false
  | .repeat sub min _ _ => 0 < min && sub.consumes
  | .capture _ _ sub => sub.consumes
  | .concat parts => anyConsumes parts
  | .alt branches => allConsume branches

/-- `anyConsumes es` tells whether one of the expressions `es` always consumes. -/
def anyConsumes : List Expr → Bool
  | [] => false
  | e :: es => e.consumes || anyConsumes es

/-- `allConsume es` tells whether all the expressions `es` always consume. -/
def allConsume : List Expr → Bool
  | [] => true
  | e :: es => e.consumes && allConsume es

end

/-- A repetition in its simplest form.  What matches only the empty text is repeated at most once,
and what is repeated zero times is dropped with its groups. -/
def Expr.mkRepeat (sub : Expr) (min : Nat) (max : Option Nat) (greedy : Bool) : Expr :=
  let (min, max) :=
    if sub.onlyEmpty then (Nat.min min 1, some (Nat.min (max.getD 1) 1)) else (min, max)
  if min = 0 && max = some 0 then .empty
  else if min = 1 && max = some 1 then sub
  else .repeat sub min max greedy

mutual

/-- The capturing groups of an expression, with their names. -/
def Expr.groups : Expr → List (Nat × Option String)
  | .capture index name sub => (index, name) :: sub.groups
  | .repeat sub _ _ _ => sub.groups
  | .concat parts => allGroups parts
  | .alt branches => allGroups branches
  | _ => []

/-- The capturing groups of expressions. -/
def allGroups : List Expr → List (Nat × Option String)
  | [] => []
  | e :: es => e.groups ++ allGroups es

end

mutual

/-- How many states the expression needs at least. -/
def Expr.size : Expr → Nat
  | .empty => 1
  | .chars _ => 1
  | .look _ => 1
  | .repeat sub min max _ => (max.getD min + 1) * (sub.size + 1)
  | .capture _ _ sub => sub.size + 2
  | .concat parts => allSizes parts
  | .alt branches => allSizes branches + 1

/-- How many states the expressions need at least. -/
def allSizes : List Expr → Nat
  | [] => 0
  | e :: es => e.size + allSizes es

end

/-! ### Flags -/

/-- The flags in force. -/
structure Flags where
  caseInsensitive : Bool := false
  multiLine : Bool := false
  dotMatchesNewLine : Bool := false
  swapGreed : Bool := false
  unicode : Bool := true
  crlf : Bool := false
  deriving DecidableEq, Repr, Inhabited

/-- The flags after a change. -/
def Flags.apply (f : Flags) (c : FlagChange) : Flags :=
  { caseInsensitive := (c.state? .caseInsensitive).getD f.caseInsensitive
    multiLine := (c.state? .multiLine).getD f.multiLine
    dotMatchesNewLine := (c.state? .dotMatchesNewLine).getD f.dotMatchesNewLine
    swapGreed := (c.state? .swapGreed).getD f.swapGreed
    unicode := (c.state? .unicode).getD f.unicode
    crlf := (c.state? .crlf).getD f.crlf }

/-! ### Classes -/

/-- The characters of a class with a name in brackets. -/
def AsciiClass.set : AsciiClass → CharSet
  | .alnum => .ofIntervals [⟨48, 57⟩, ⟨65, 90⟩, ⟨97, 122⟩]
  | .alpha => .ofIntervals [⟨65, 90⟩, ⟨97, 122⟩]
  | .ascii => .interval 0 127
  | .blank => .ofIntervals [⟨9, 9⟩, ⟨32, 32⟩]
  | .cntrl => .ofIntervals [⟨0, 31⟩, ⟨127, 127⟩]
  | .digit => .interval 48 57
  | .graph => .interval 33 126
  | .lower => .interval 97 122
  | .print => .interval 32 126
  | .punct => .ofIntervals [⟨33, 47⟩, ⟨58, 64⟩, ⟨91, 96⟩, ⟨123, 126⟩]
  | .space => .ofIntervals [⟨9, 13⟩, ⟨32, 32⟩]
  | .upper => .interval 65 90
  | .word => .ofIntervals [⟨48, 57⟩, ⟨65, 90⟩, ⟨95, 95⟩, ⟨97, 122⟩]
  | .xdigit => .ofIntervals [⟨48, 57⟩, ⟨65, 70⟩, ⟨97, 102⟩]

/-- The characters of a class of digits, white space or words. -/
def PerlClass.set (unicode : Bool) : PerlClass → CharSet
  | .digit => if unicode then decimalDigits else AsciiClass.digit.set
  | .space => if unicode then whiteSpace else AsciiClass.space.set
  | .word => if unicode then wordChars else AsciiClass.word.set

/-- The characters of a Unicode class. -/
def PropertyQuery.set : PropertyQuery → Except Failure CharSet
  | .named name =>
    let n := normalizeName name
    let found := (if n = "cf" || n = "sc" || n = "lc" then none else binary? n).or
      ((generalCategory? n).or (script? n))
    match found with
    | some s => .ok s
    | none => .error .propertyNotFound
  | .value property v =>
    let v := normalizeName v
    let found : Option (Option CharSet) :=
      match normalizeName property with
      | "generalcategory" | "gc" | "category" => some (generalCategory? v)
      | "script" | "sc" => some (script? v)
      | "scriptextensions" | "scx" => some (scriptExtension? v)
      | _ => none
    match found with
    | none => .error .propertyNotFound
    | some none => .error .propertyValueNotFound
    | some (some s) => .ok s

/-- A class with the equivalents of its characters, negated.  Without Unicode a class is one of
bytes, and it may not hold bytes outside of ASCII. -/
def foldAndNegate (f : Flags) (negated : Bool) (s : CharSet) : Except Failure CharSet :=
  if f.unicode then
    let s := if f.caseInsensitive then s.foldCase else s
    .ok (if negated then s.compl else s)
  else
    let s := if f.caseInsensitive then s.foldAsciiCase else s
    let s := if negated then s.compl.inter (.interval 0 255) else s
    if (s.inter (.interval 128 CharSet.top)).intervals.isEmpty then .ok s else .error .invalidUtf8

/-- The code point of a character in a class. -/
def classLiteral (f : Flags) (c : Literal) : Except Failure Nat :=
  if f.unicode || c.char.toNat < 128 then .ok c.char.toNat
  else if c.isByte then .error .invalidUtf8
  else .error .unicodeNotAllowed

mutual

/-- The characters of an item of a class. -/
def ClassItem.set (f : Flags) : ClassItem → Except Failure CharSet
  | .literal c => do return .singleton (← classLiteral f c)
  | .range lo hi => do
    let a ← classLiteral f lo
    let b ← classLiteral f hi
    return .interval a b
  | .ascii kind negated => foldAndNegate f negated kind.set
  | .perl kind negated => foldAndNegate { f with caseInsensitive := false } negated (kind.set f.unicode)
  | .property query negated => do
    unless f.unicode do throw .unicodeNotAllowed
    foldAndNegate f negated (← query.set)
  | .bracketed negated set => do foldAndNegate f negated (← set.set f)

/-- The characters of what stands between brackets. -/
def ClassSet.set (f : Flags) : ClassSet → Except Failure CharSet
  | .union items => do return .ofIntervals (← itemIntervals f items)
  | .op kind left right => do
    let fold (s : CharSet) : CharSet :=
      if !f.caseInsensitive then s else if f.unicode then s.foldCase else s.foldAsciiCase
    let a := fold (← left.set f)
    let b := fold (← right.set f)
    match kind with
    | .intersection => return a.inter b
    | .difference => return a.diff b
    | .symmetricDifference => return a.symmDiff b

/-- The intervals of items, in their order. -/
def itemIntervals (f : Flags) : List ClassItem → Except Failure (List Interval)
  | [] => .ok []
  | i :: is => do
    let s ← i.set f
    return s.intervals ++ (← itemIntervals f is)

end

/-! ### Whole patterns -/

/-- A single character, with its equivalents where case does not count. -/
def literalExpr (f : Flags) (c : Literal) : Except Failure Expr :=
  let n := c.char.toNat
  if !f.unicode && c.isByte && 128 ≤ n then .error .invalidUtf8
  else if !f.caseInsensitive then .ok (.chars (.singleton n))
  else if f.unicode then
    match caseOrbit? n with
    | some orbit => .ok (.chars (.ofIntervals (orbit.map fun m => ⟨m, m⟩)))
    | none => .ok (.chars (.singleton n))
  else .ok (.chars (CharSet.singleton n).foldAsciiCase)

/-- Any character but the ends of lines, or any at all. -/
def dotExpr (f : Flags) : Except Failure Expr :=
  if !f.unicode then .error .invalidUtf8
  else if f.dotMatchesNewLine then .ok (.chars .all)
  else if f.crlf then .ok (.chars (CharSet.ofIntervals [⟨10, 10⟩, ⟨13, 13⟩]).compl)
  else .ok (.chars (CharSet.singleton 10).compl)

/-- A condition with the flags applied. -/
def Assertion.look (f : Flags) : Assertion → Look
  | .startLine => if f.multiLine then (if f.crlf then .startCrlfLine else .startLine) else .startText
  | .endLine => if f.multiLine then (if f.crlf then .endCrlfLine else .endLine) else .endText
  | .startText => .startText
  | .endText => .endText
  | .wordBoundary => .boundary f.unicode
  | .notWordBoundary => .notBoundary f.unicode
  | .wordStart => .wordStart f.unicode
  | .wordEnd => .wordEnd f.unicode
  | .wordStartHalf => .wordStartHalf f.unicode
  | .wordEndHalf => .wordEndHalf f.unicode

mutual

/-- A pattern with the flags applied, and the flags in force after it. -/
def withFlags (f : Flags) : Pattern → Except Failure (Expr × Flags)
  | .empty => .ok (.empty, f)
  | .flags change => .ok (.empty, f.apply change)
  | .literal c => do return (← literalExpr f c, f)
  | .dot => do return (← dotExpr f, f)
  | .assertion a => .ok (.look (a.look f), f)
  | .perl kind negated => do return (.chars (← (ClassItem.perl kind negated).set f), f)
  | .property query negated => do return (.chars (← (ClassItem.property query negated).set f), f)
  | .bracketed negated set => do return (.chars (← foldAndNegate f negated (← set.set f)), f)
  | .repetition sub min max greedy => do
    let (e, f) ← withFlags f sub
    return (.mkRepeat e min max (greedy != f.swapGreed), f)
  | .group (.capture index name) sub => do
    let (e, _) ← withFlags f sub
    return (.capture index name e, f)
  | .group (.plain change) sub => do
    let (e, _) ← withFlags (f.apply change) sub
    return (e, f)
  | .alternation branches => do
    let (es, f) ← withFlagsAll f branches
    return (.alt es, f)
  | .concat parts => do
    let (es, f) ← withFlagsAll f parts
    return (.concat es, f)

/-- Patterns with the flags applied, each with the flags in force after the one before. -/
def withFlagsAll (f : Flags) : List Pattern → Except Failure (List Expr × Flags)
  | [] => .ok ([], f)
  | p :: ps => do
    let (e, f) ← withFlags f p
    let (es, f) ← withFlagsAll f ps
    return (e :: es, f)

end

/-- Applies the flags of a pattern. -/
def Expr.ofPattern (p : Pattern) : Except Failure Expr := do
  let (e, _) ← withFlags {} p
  return e

end Codemod.Regex
