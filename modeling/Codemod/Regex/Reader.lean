import Codemod.Regex.Pattern
import Codemod.Text.Property

/-!
# Reading patterns

## Main definitions

* `readPattern` — the syntax tree of a pattern, or why it is refused.
-/

namespace Codemod.Regex

open Codemod.Text

/-- Where the reader stands. -/
structure ReaderState where
  rest : List Char
  /-- Whether blanks and comments in the pattern are skipped. -/
  ignoreWhitespace : Bool
  /-- The number of capturing groups opened so far. -/
  captures : Nat
  names : List String

/-- A step of the reader. -/
abbrev Reader := StateT ReaderState (Except Failure)

/-! ### Characters -/

/-- The character in view. -/
def char? : Reader (Option Char) := do return (← get).rest.head?

/-- Nothing is left. -/
def atEnd : Reader Bool := do return (← get).rest.isEmpty

/-- Steps over the character in view; tells whether another one follows. -/
def bump : Reader Bool := do
  modify fun s => { s with rest := s.rest.tail }
  return !(← atEnd)

/-- Skips blanks, and comments from `#` to the end of the line. -/
def skipBlanks (inComment : Bool) : List Char → List Char
  | [] => []
  | c :: rest =>
    if inComment then skipBlanks (c ≠ '\n') rest
    else if isWhiteSpace c then skipBlanks false rest
    else if c = '#' then skipBlanks true rest
    else c :: rest

/-- Skips blanks where they do not count. -/
def bumpSpace : Reader Unit :=
  modify fun s => if s.ignoreWhitespace then { s with rest := skipBlanks false s.rest } else s

/-- Steps over the character in view and the blanks after it; tells whether anything follows. -/
def bumpAndSpace : Reader Bool := do
  unless ← bump do return false
  bumpSpace
  return !(← atEnd)

/-- `at? c` tells whether `c` is in view. -/
def at? (c : Char) : Reader Bool := do return (← char?) == some c

/-- Steps over these characters if they are next. -/
def bumpIf (cs : List Char) : Reader Bool := do
  let s ← get
  if cs.isPrefixOf s.rest then
    set { s with rest := s.rest.drop cs.length }
    return true
  return false

/-- The character after the one in view, blanks apart. -/
def peekSpace : Reader (Option Char) := do
  let s ← get
  let after := s.rest.tail
  return (if s.ignoreWhitespace then skipBlanks false after else after).head?

/-! ### Numbers -/

/-- Reads the digits in view, and the blanks around them.  At most nine significant digits can be
told from too many. -/
def decimal (empty : Failure) : Reader Nat := do
  modify fun s => { s with rest := s.rest.dropWhile isWhiteSpace }
  let rec digits : Nat → List Char → Reader (List Char)
    | 0, ds => return ds
    | fuel + 1, ds => do
      match ← char? with
      | some c =>
        if c.isDigit then
          let _ ← bumpAndSpace
          digits fuel (c :: ds)
        else return ds
      | none => return ds
  let ds := (← digits (← get).rest.length []).reverse
  modify fun s => { s with rest := s.rest.dropWhile isWhiteSpace }
  bumpSpace
  if ds.isEmpty then throw empty
  let n := ds.foldl (fun n c => 10 * n + (c.toNat - '0'.toNat)) 0
  if n < Nat.pow 2 32 then return n else throw .decimalInvalid

/-- The value of a hexadecimal digit. -/
def hex? (c : Char) : Option Nat :=
  if c.isDigit then some (c.toNat - '0'.toNat)
  else if 'a' ≤ c && c ≤ 'f' then some (c.toNat - 'a'.toNat + 10)
  else if 'A' ≤ c && c ≤ 'F' then some (c.toNat - 'A'.toNat + 10)
  else none

/-- The character of a code point. -/
def charOf (n : Nat) : Reader Char :=
  if n.isValidChar then return Char.ofNat n else throw .escapeHexInvalid

/-- A character written by a fixed number of hexadecimal digits. -/
def hexDigits : Nat → Nat → Reader Char
  | 0, n => charOf n
  | more + 1, n => do
    match (← char?).bind hex? with
    | none => if ← atEnd then throw .escapeUnexpectedEof else throw .escapeHexInvalidDigit
    | some d =>
      let _ ← bumpAndSpace
      hexDigits more (16 * n + d)

/-- A character written by hexadecimal digits in braces. -/
def hexBrace : Reader Char := do
  let rec digits : Nat → List Nat → Reader (List Nat)
    | 0, ds => return ds
    | fuel + 1, ds => do
      unless ← bumpAndSpace do throw .escapeUnexpectedEof
      match ← char? with
      | some '\x7d' => return ds
      | some c =>
        match hex? c with
        | some d => digits fuel (d :: ds)
        | none => throw .escapeHexInvalidDigit
      | none => throw .escapeUnexpectedEof
  let ds := (← digits ((← get).rest.length + 1) []).reverse
  let _ ← bumpAndSpace
  if ds.isEmpty then throw .escapeHexEmpty
  charOf (ds.foldl (fun n d => 16 * n + d) 0)

/-- A hexadecimal escape, from its letter on. -/
def hexEscape (letter : Char) : Reader Literal := do
  unless ← bumpAndSpace do throw .escapeUnexpectedEof
  if ← at? '\x7b' then return ⟨← hexBrace, false⟩
  let size := if letter = 'x' then 2 else if letter = 'u' then 4 else 8
  return ⟨← hexDigits size 0, letter = 'x'⟩

/-! ### Escapes -/

/-- What an escape or a plain character is. -/
inductive Primitive
  | literal (c : Literal)
  | assertion (a : Assertion)
  | dot
  | perl (kind : PerlClass) (negated : Bool)
  | property (query : PropertyQuery) (negated : Bool)

/-- Characters with a meaning in patterns. -/
def metaCharacters : List Char :=
  ['\\', '.', '+', '*', '?', '(', ')', '|', '[', ']', '\x7b', '\x7d', '^', '$', '#', '&', '-', '~']

/-- `isEscapable c` tells whether `c` may be escaped to stand for itself. -/
def isEscapable (c : Char) : Bool :=
  metaCharacters.contains c || (c.toNat < 128 && !c.isAlphanum && c ≠ '<' && c ≠ '>')

/-- Splits a name at the first occurrence of a mark. -/
def splitAt? (mark : List Char) : List Char → Option (List Char × List Char)
  | [] => none
  | c :: cs =>
    if mark.isPrefixOf (c :: cs) then some ([], (c :: cs).drop mark.length)
    else (splitAt? mark cs).map fun p => (c :: p.1, p.2)

/-- The query that the name of a Unicode class spells; the flag tells whether it negates. -/
def queryOf (name : List Char) : PropertyQuery × Bool :=
  let value (p : List Char × List Char) : PropertyQuery :=
    .value (String.ofList p.1) (String.ofList p.2)
  match splitAt? ['!', '='] name with
  | some p => (value p, true)
  | none =>
    match splitAt? [':'] name with
    | some p => (value p, false)
    | none =>
      match splitAt? ['='] name with
      | some p => (value p, false)
      | none => (.named (String.ofList name), false)

/-- A Unicode class, from its letter on. -/
def propertyClass (negated : Bool) : Reader Primitive := do
  unless ← bumpAndSpace do throw .escapeUnexpectedEof
  if ← at? '\x7b' then
    let rec name : Nat → List Char → Reader (List Char)
      | 0, cs => return cs
      | fuel + 1, cs => do
        unless ← bumpAndSpace do throw .escapeUnexpectedEof
        match ← char? with
        | some '\x7d' => return cs
        | some c => name fuel (c :: cs)
        | none => throw .escapeUnexpectedEof
    let cs := (← name ((← get).rest.length + 1) []).reverse
    let _ ← bump
    let (query, differs) := queryOf cs
    return .property query (negated != differs)
  match ← char? with
  | some '\\' => throw .unicodeClassInvalid
  | some c =>
    let _ ← bumpAndSpace
    return .property (.named c.toString) negated
  | none => throw .escapeUnexpectedEof

/-- The condition in braces after `\b`, if there is one. -/
def specialBoundary? : Reader (Option Assertion) := do
  let start ← get
  let valid (c : Char) : Bool := c.isAlpha || c = '-'
  unless ← bumpAndSpace do throw .specialWordOrRepetitionUnexpectedEof
  match ← char? with
  | some c =>
    if !valid c then
      set start
      return none
    let rec name : Nat → List Char → Reader (List Char)
      | 0, cs => return cs
      | fuel + 1, cs => do
        match ← char? with
        | some c =>
          if c.isAlpha || c = '-' then
            let _ ← bumpAndSpace
            name fuel (c :: cs)
          else return cs
        | none => return cs
    let cs := (← name (← get).rest.length []).reverse
    unless ← at? '\x7d' do throw .specialWordBoundaryUnclosed
    let _ ← bump
    match String.ofList cs with
    | "start" => return some .wordStart
    | "end" => return some .wordEnd
    | "start-half" => return some .wordStartHalf
    | "end-half" => return some .wordEndHalf
    | _ => throw .specialWordBoundaryUnrecognized
  | none => throw .specialWordOrRepetitionUnexpectedEof

/-- An escape, from its backslash on. -/
def escape : Reader Primitive := do
  unless ← bump do throw .escapeUnexpectedEof
  match ← char? with
  | none => throw .escapeUnexpectedEof
  | some c =>
    if c.isDigit then throw .unsupportedBackreference
    match c with
    | 'x' | 'u' | 'U' => return .literal (← hexEscape c)
    | 'p' => propertyClass false
    | 'P' => propertyClass true
    | _ =>
      let _ ← bump
      let literal (l : Char) : Reader Primitive := return .literal ⟨l, false⟩
      match c with
      | 'd' => return .perl .digit false
      | 's' => return .perl .space false
      | 'w' => return .perl .word false
      | 'D' => return .perl .digit true
      | 'S' => return .perl .space true
      | 'W' => return .perl .word true
      | 'a' => literal '\x07'
      | 'f' => literal '\x0c'
      | 't' => literal '\t'
      | 'n' => literal '\n'
      | 'r' => literal '\r'
      | 'v' => literal '\x0b'
      | 'A' => return .assertion .startText
      | 'z' => return .assertion .endText
      | 'B' => return .assertion .notWordBoundary
      | '<' => return .assertion .wordStart
      | '>' => return .assertion .wordEnd
      | 'b' =>
        if ← at? '\x7b' then
          match ← specialBoundary? with
          | some a => return .assertion a
          | none => return .assertion .wordBoundary
        return .assertion .wordBoundary
      | _ => if isEscapable c then literal c else throw .escapeUnrecognized

/-! ### Bracketed classes -/

/-- The class of a name between colons. -/
def asciiClass? : String → Option AsciiClass
  | "alnum" => some .alnum
  | "alpha" => some .alpha
  | "ascii" => some .ascii
  | "blank" => some .blank
  | "cntrl" => some .cntrl
  | "digit" => some .digit
  | "graph" => some .graph
  | "lower" => some .lower
  | "print" => some .print
  | "punct" => some .punct
  | "space" => some .space
  | "upper" => some .upper
  | "word" => some .word
  | "xdigit" => some .xdigit
  | _ => none

/-- A class such as `[:alpha:]`, if one is in view. -/
def namedClass? : Reader (Option ClassItem) := do
  let s ← get
  match s.rest with
  | '[' :: ':' :: rest =>
    let negated := rest.head? == some '^'
    let body := if negated then rest.tail else rest
    let name := body.takeWhile (· ≠ ':')
    match body.dropWhile (· ≠ ':') with
    | ':' :: ']' :: after =>
      match asciiClass? (String.ofList name) with
      | some kind =>
        set { s with rest := after }
        return some (.ascii kind negated)
      | none => return none
    | _ => return none
  | _ => return none

/-- A character or escape in a class. -/
def classPrimitive : Reader Primitive := do
  match ← char? with
  | some '\\' => escape
  | some c =>
    let _ ← bump
    return .literal ⟨c, false⟩
  | none => throw .classUnclosed

/-- A primitive as an item of a class. -/
def itemOf : Primitive → Reader ClassItem
  | .literal c => return .literal c
  | .perl kind negated => return .perl kind negated
  | .property query negated => return .property query negated
  | _ => throw .classEscapeInvalid

/-- A primitive as the end of a range. -/
def rangeEnd : Primitive → Reader Literal
  | .literal c => return c
  | _ => throw .classRangeLiteral

/-- A character, an escape or a range in a class. -/
def classRange : Reader ClassItem := do
  let first ← classPrimitive
  bumpSpace
  if ← atEnd then throw .classUnclosed
  let next ← peekSpace
  if !(← at? '-') || next == some ']' || next == some '-' then return ← itemOf first
  unless ← bumpAndSpace do throw .classUnclosed
  let second ← classPrimitive
  let lo ← rangeEnd first
  let hi ← rangeEnd second
  if hi.char < lo.char then throw .classRangeInvalid
  return .range lo hi

/-- The hyphens at the start of a class, and a closing bracket that stands for itself. -/
def classStart : Nat → List ClassItem → Reader (List ClassItem)
  | 0, items => return items
  | fuel + 1, items => do
    if ← at? '-' then
      unless ← bumpAndSpace do throw .classUnclosed
      classStart fuel (.literal ⟨'-', false⟩ :: items)
    else if items.isEmpty && (← at? ']') then
      unless ← bumpAndSpace do throw .classUnclosed
      return [.literal ⟨']', false⟩]
    else return items

/-- The operator of two characters in view, if there is one. -/
def classOp? : Reader (Option ClassOp) := do
  if ← bumpIf ['&', '&'] then return some .intersection
  if ← bumpIf ['-', '-'] then return some .difference
  if ← bumpIf ['~', '~'] then return some .symmetricDifference
  return none

/-- The set of the items read last, joined to what stood before an operator. -/
def joinOperand (pending : Option (ClassSet × ClassOp)) (items : List ClassItem) : ClassSet :=
  match pending with
  | none => .union items.reverse
  | some (left, op) => .op op left (.union items.reverse)

mutual

/-- A bracketed class, from its bracket on: whether it is negated, and its set. -/
def bracketed : Nat → Reader (Bool × ClassSet)
  | 0 => throw .nestLimitExceeded
  | fuel + 1 => do
    unless ← bumpAndSpace do throw .classUnclosed
    let negated ← at? '^'
    if negated then
      unless ← bumpAndSpace do throw .classUnclosed
    let items ← classStart (← get).rest.length []
    let set ← classItems fuel none items
    return (negated, set)

/-- The items of a class up to its closing bracket. -/
def classItems : Nat → Option (ClassSet × ClassOp) → List ClassItem → Reader ClassSet
  | 0, _, _ => throw .nestLimitExceeded
  | fuel + 1, pending, items => do
    bumpSpace
    match ← char? with
    | none => throw .classUnclosed
    | some '[' =>
      match ← namedClass? with
      | some item => classItems fuel pending (item :: items)
      | none =>
        let (negated, set) ← bracketed fuel
        classItems fuel pending (.bracketed negated set :: items)
    | some ']' =>
      let _ ← bump
      return joinOperand pending items
    | some _ =>
      match ← classOp? with
      | some op => classItems fuel (some (joinOperand pending items, op)) []
      | none =>
        let item ← classRange
        classItems fuel pending (item :: items)

end

/-! ### Groups and repetitions -/

/-- The flag of a letter. -/
def flagOf (c : Char) : Reader Flag :=
  match c with
  | 'i' => return .caseInsensitive
  | 'm' => return .multiLine
  | 's' => return .dotMatchesNewLine
  | 'U' => return .swapGreed
  | 'u' => return .unicode
  | 'R' => return .crlf
  | 'x' => return .ignoreWhitespace
  | _ => throw .flagUnrecognized

/-- The flags of a group, up to the colon or parenthesis that ends them; `negating` tells whether a
hyphen has been met and `dangling` whether it was the last thing met. -/
def flags : Nat → FlagChange → (negating dangling : Bool) → Reader FlagChange
  | 0, _, _, _ => throw .flagUnexpectedEof
  | fuel + 1, found, negating, dangling => do
    match ← char? with
    | none => throw .flagUnexpectedEof
    | some c =>
      if c = ':' || c = ')' then
        if dangling then throw .flagDanglingNegation
        return found
      if c = '-' then
        if negating then throw .flagRepeatedNegation
        unless ← bump do throw .flagUnexpectedEof
        flags fuel found true true
      else
        let flag ← flagOf c
        if found.on.contains flag || found.off.contains flag then throw .flagDuplicate
        unless ← bump do throw .flagUnexpectedEof
        let found : FlagChange :=
          if negating then { found with off := flag :: found.off }
          else { found with on := flag :: found.on }
        flags fuel found negating false

/-- `isAlphabetic c` tells whether `c` is a letter in the sense of Unicode. -/
def isAlphabetic (c : Char) : Bool :=
  if c.toNat < 128 then c.isAlpha else ((binary? "alphabetic").getD CharSet.empty).contains c

/-- `isAlphanumeric c` tells whether `c` is a letter or a number in the sense of Unicode. -/
def isAlphanumeric (c : Char) : Bool :=
  isAlphabetic c || ((generalCategory? "n").getD CharSet.empty).contains c

/-- `isNameChar c first` tells whether `c` may stand in the name of a group, be it `first`. -/
def isNameChar (c : Char) (first : Bool) : Bool :=
  c = '_' ||
    if first then isAlphabetic c else c = '.' || c = '[' || c = ']' || isAlphanumeric c

/-- The name of a group, up to the bracket that ends it. -/
def groupName : Nat → List Char → Reader String
  | 0, _ => throw .groupNameUnexpectedEof
  | fuel + 1, cs => do
    match ← char? with
    | none => throw .groupNameUnexpectedEof
    | some '>' =>
      let _ ← bump
      if cs.isEmpty then throw .groupNameEmpty
      let name := String.ofList cs.reverse
      let s ← get
      if s.names.contains name then throw .groupNameDuplicate
      set { s with names := name :: s.names }
      return name
    | some c =>
      if isNameChar c cs.isEmpty then
        let _ ← bump
        groupName fuel (c :: cs)
      else throw .groupNameInvalid

/-- Counts a capturing group. -/
def nextCapture : Reader Nat := do
  modify fun s => { s with captures := s.captures + 1 }
  return (← get).captures

/-- What a parenthesis opens: a group, or flags for the rest of the group around it. -/
def groupOpen : Reader (GroupKind ⊕ FlagChange) := do
  let _ ← bump
  bumpSpace
  let size := (← get).rest.length + 1
  if (← bumpIf ['?', '=']) || (← bumpIf ['?', '!']) || (← bumpIf ['?', '<', '=']) ||
      (← bumpIf ['?', '<', '!']) then throw .unsupportedLookAround
  if (← bumpIf ['?', 'P', '<']) || (← bumpIf ['?', '<']) then
    let index ← nextCapture
    let name ← groupName size []
    return .inl (.capture index (some name))
  if ← bumpIf ['?'] then
    if ← atEnd then throw .groupUnclosed
    let change ← flags size ⟨[], []⟩ false false
    let closes ← at? ')'
    let _ ← bump
    if closes then
      if change.on.isEmpty && change.off.isEmpty then throw .repetitionMissing
      return .inr change
    return .inl (.plain change)
  return .inl (.capture (← nextCapture) none)

/-- The last part read, to be repeated. -/
def repeated (parts : List Pattern) : Reader (Pattern × List Pattern) :=
  match parts with
  | [] => throw .repetitionMissing
  | .empty :: _ => throw .repetitionMissing
  | .flags _ :: _ => throw .repetitionMissing
  | p :: rest => return (p, rest)

/-- Reads whether the repetition just read is greedy. -/
def greedy (more : Bool) : Reader Bool := do
  if more && (← at? '?') then
    let _ ← bump
    return false
  return true

/-- A repetition by `?`, `*` or `+`. -/
def simpleRepetition (parts : List Pattern) (min : Nat) (max : Option Nat) :
    Reader (List Pattern) := do
  let (sub, rest) ← repeated parts
  let greedy ← greedy (← bump)
  return .repetition sub min max greedy :: rest

/-- A repetition by counts in braces. -/
def countedRepetition (parts : List Pattern) : Reader (List Pattern) := do
  let (sub, rest) ← repeated parts
  unless ← bumpAndSpace do throw .repetitionCountUnclosed
  let start ← observe (decimal .repetitionCountDecimalEmpty)
  if ← atEnd then throw .repetitionCountUnclosed
  let (min, max) ←
    if ← at? ',' then do
      unless ← bumpAndSpace do throw .repetitionCountUnclosed
      if ← at? '\x7d' then do
        let min ← ofExcept start
        pure (min, none)
      else do
        let min ← ofExcept start
        let max ← decimal .repetitionCountDecimalEmpty
        pure (min, some max)
    else do
      let min ← ofExcept start
      pure (min, some min)
  unless ← at? '\x7d' do throw .repetitionCountUnclosed
  let greedy ← greedy (← bumpAndSpace)
  if max.any (· < min) then throw .repetitionCountInvalid
  return .repetition sub min max greedy :: rest
where
  /-- Runs a step that may fail, keeping its failure for later. -/
  observe (r : Reader Nat) : Reader (Except Failure Nat) := fun s =>
    match r s with
    | .ok (n, s') => .ok (.ok n, s')
    | .error e =>
      .ok (.error e, { s with rest := skipDigits s.rest })
  skipDigits (cs : List Char) : List Char :=
    ((cs.dropWhile isWhiteSpace).dropWhile Char.isDigit).dropWhile isWhiteSpace
  ofExcept (r : Except Failure Nat) : Reader Nat := StateT.lift r

/-! ### Whole patterns -/

/-- A primitive as a pattern. -/
def patternOf : Primitive → Pattern
  | .literal c => .literal c
  | .assertion a => .assertion a
  | .dot => .dot
  | .perl kind negated => .perl kind negated
  | .property query negated => .property query negated

/-- A character or escape outside of classes. -/
def primitive (c : Char) : Reader Primitive := do
  if c = '\\' then return ← escape
  let _ ← bump
  match c with
  | '.' => return .dot
  | '^' => return .assertion .startLine
  | '$' => return .assertion .endLine
  | _ => return .literal ⟨c, false⟩

/-- Reads branches up to the end of a group or of the pattern.  `branches` and `parts` hold what has
been read, the last one first. -/
def alternation : Nat → List Pattern → List Pattern → Reader Pattern
  | 0, _, _ => throw .nestLimitExceeded
  | fuel + 1, branches, parts => do
    bumpSpace
    let close : Pattern :=
      Pattern.ofBranches (Pattern.ofParts parts.reverse :: branches).reverse
    match ← char? with
    | none => return close
    | some ')' => return close
    | some '(' =>
      let outer := (← get).ignoreWhitespace
      match ← groupOpen with
      | .inr change =>
        if let some v := change.state? .ignoreWhitespace then
          modify fun s => { s with ignoreWhitespace := v }
        alternation fuel branches (.flags change :: parts)
      | .inl kind =>
        if let .plain change := kind then
          if let some v := change.state? .ignoreWhitespace then
            modify fun s => { s with ignoreWhitespace := v }
        let sub ← alternation fuel [] []
        unless ← at? ')' do throw .groupUnclosed
        modify fun s => { s with ignoreWhitespace := outer }
        let _ ← bump
        alternation fuel branches (.group kind sub :: parts)
    | some '|' =>
      let _ ← bump
      alternation fuel (Pattern.ofParts parts.reverse :: branches) []
    | some '[' =>
      let (negated, set) ← bracketed fuel
      alternation fuel branches (.bracketed negated set :: parts)
    | some '?' => alternation fuel branches (← simpleRepetition parts 0 (some 1))
    | some '*' => alternation fuel branches (← simpleRepetition parts 0 none)
    | some '+' => alternation fuel branches (← simpleRepetition parts 1 none)
    | some '\x7b' => alternation fuel branches (← countedRepetition parts)
    | some c => alternation fuel branches (patternOf (← primitive c) :: parts)

/-- How deep a pattern may nest. -/
def nestLimit : Nat := 250

/-- Reads a pattern. -/
def readPattern (text : List Char) : Except Failure Pattern := do
  let start : ReaderState := ⟨text, false, 0, []⟩
  let (p, s) ← (alternation (2 * text.length + 2) [] []).run start
  unless s.rest.isEmpty do throw .groupUnopened
  if nestLimit < p.depth then throw .nestLimitExceeded
  return p

end Codemod.Regex
