/-!
# Patterns as they are written

The syntax tree of a regular expression, before flags are applied to it.

## Main definitions

* `Failure` — why a pattern is refused, with the words for it.
* `Pattern`, `ClassSet`, `ClassItem` — the syntax tree.
-/

namespace Codemod.Regex

/-- Why a pattern is refused. -/
inductive Failure
  | captureLimitExceeded
  | classEscapeInvalid
  | classRangeInvalid
  | classRangeLiteral
  | classUnclosed
  | decimalInvalid
  | escapeHexEmpty
  | escapeHexInvalid
  | escapeHexInvalidDigit
  | escapeUnexpectedEof
  | escapeUnrecognized
  | flagDanglingNegation
  | flagDuplicate
  | flagRepeatedNegation
  | flagUnexpectedEof
  | flagUnrecognized
  | groupNameDuplicate
  | groupNameEmpty
  | groupNameInvalid
  | groupNameUnexpectedEof
  | groupUnclosed
  | groupUnopened
  | nestLimitExceeded
  | repetitionCountInvalid
  | repetitionCountDecimalEmpty
  | repetitionCountUnclosed
  | repetitionMissing
  | specialWordBoundaryUnclosed
  | specialWordBoundaryUnrecognized
  | specialWordOrRepetitionUnexpectedEof
  | unicodeClassInvalid
  | unsupportedBackreference
  | unsupportedLookAround
  | unicodeNotAllowed
  | invalidUtf8
  | propertyNotFound
  | propertyValueNotFound
  | tooBig
  deriving DecidableEq, Repr, Inhabited

/-- The words for a refusal. -/
def Failure.message : Failure → String
  | captureLimitExceeded => "exceeded the maximum number of capturing groups (4294967295)"
  | classEscapeInvalid => "invalid escape sequence found in character class"
  | classRangeInvalid => "invalid character class range, the start must be <= the end"
  | classRangeLiteral => "invalid range boundary, must be a literal"
  | classUnclosed => "unclosed character class"
  | decimalInvalid => "decimal literal invalid"
  | escapeHexEmpty => "hexadecimal literal empty"
  | escapeHexInvalid => "hexadecimal literal is not a Unicode scalar value"
  | escapeHexInvalidDigit => "invalid hexadecimal digit"
  | escapeUnexpectedEof => "incomplete escape sequence, reached end of pattern prematurely"
  | escapeUnrecognized => "unrecognized escape sequence"
  | flagDanglingNegation => "dangling flag negation operator"
  | flagDuplicate => "duplicate flag"
  | flagRepeatedNegation => "flag negation operator repeated"
  | flagUnexpectedEof => "expected flag but got end of regex"
  | flagUnrecognized => "unrecognized flag"
  | groupNameDuplicate => "duplicate capture group name"
  | groupNameEmpty => "empty capture group name"
  | groupNameInvalid => "invalid capture group character"
  | groupNameUnexpectedEof => "unclosed capture group name"
  | groupUnclosed => "unclosed group"
  | groupUnopened => "unopened group"
  | nestLimitExceeded => "exceed the maximum number of nested parentheses/brackets (250)"
  | repetitionCountInvalid =>
    "invalid repetition count range, the start must be <= the end"
  | repetitionCountDecimalEmpty => "repetition quantifier expects a valid decimal"
  | repetitionCountUnclosed => "unclosed counted repetition"
  | repetitionMissing => "repetition operator missing expression"
  | specialWordBoundaryUnclosed =>
    "special word boundary assertion is either unclosed or contains an invalid character"
  | specialWordBoundaryUnrecognized =>
    "unrecognized special word boundary assertion, valid choices are: " ++
      "start, end, start-half or end-half"
  | specialWordOrRepetitionUnexpectedEof =>
    "found either the beginning of a special word boundary or a bounded repetition on a \\b " ++
      "with an opening brace, but no closing brace"
  | unicodeClassInvalid => "invalid Unicode character class"
  | unsupportedBackreference => "backreferences are not supported"
  | unsupportedLookAround =>
    "look-around, including look-ahead and look-behind, is not supported"
  | unicodeNotAllowed => "Unicode not allowed here"
  | invalidUtf8 => "pattern can match invalid UTF-8"
  | propertyNotFound => "Unicode property not found"
  | propertyValueNotFound => "Unicode property value not found"
  | tooBig => "Compiled regex exceeds size limit of 10485760 bytes."

/-- The flags of a pattern. -/
inductive Flag
  | caseInsensitive
  | multiLine
  | dotMatchesNewLine
  | swapGreed
  | unicode
  | crlf
  | ignoreWhitespace
  deriving DecidableEq, Repr, Inhabited

/-- Flags that are set and flags that are cleared. -/
structure FlagChange where
  on : List Flag
  off : List Flag
  deriving DecidableEq, Repr, Inhabited

/-- What a change does to a flag; `none` if it leaves the flag alone. -/
def FlagChange.state? (f : FlagChange) (flag : Flag) : Option Bool :=
  if f.off.contains flag then some false else if f.on.contains flag then some true else none

/-- The classes of digits, white space and word characters. -/
inductive PerlClass
  | digit | space | word
  deriving DecidableEq, Repr, Inhabited

/-- Classes with names in brackets. -/
inductive AsciiClass
  | alnum | alpha | ascii | blank | cntrl | digit | graph | lower | print | punct | space | upper
  | word | xdigit
  deriving DecidableEq, Repr, Inhabited

/-- How a Unicode class is named. -/
inductive PropertyQuery
  | named (name : String)
  | value (property value : String)
  deriving DecidableEq, Repr, Inhabited

/-- A character in a pattern; `isByte` tells whether it is written as an escape of two hexadecimal
digits. -/
structure Literal where
  char : Char
  isByte : Bool
  deriving DecidableEq, Repr, Inhabited

/-- Operators on classes. -/
inductive ClassOp
  | intersection | difference | symmetricDifference
  deriving DecidableEq, Repr, Inhabited

mutual

/-- An item of a bracketed class. -/
inductive ClassItem
  | literal (c : Literal)
  | range (lo hi : Literal)
  | ascii (kind : AsciiClass) (negated : Bool)
  | perl (kind : PerlClass) (negated : Bool)
  | property (query : PropertyQuery) (negated : Bool)
  | bracketed (negated : Bool) (set : ClassSet)

/-- What stands between the brackets of a class. -/
inductive ClassSet
  | union (items : List ClassItem)
  | op (kind : ClassOp) (left right : ClassSet)

end

/-- Conditions on a place in the text. -/
inductive Assertion
  | startLine | endLine | startText | endText
  | wordBoundary | notWordBoundary | wordStart | wordEnd | wordStartHalf | wordEndHalf
  deriving DecidableEq, Repr, Inhabited

/-- The kinds of groups. -/
inductive GroupKind
  | capture (index : Nat) (name : Option String)
  | plain (flags : FlagChange)
  deriving DecidableEq, Repr, Inhabited

/-- A pattern as it is written. -/
inductive Pattern
  | empty
  /-- Flags for the rest of the group. -/
  | flags (change : FlagChange)
  | literal (c : Literal)
  | dot
  | assertion (a : Assertion)
  | perl (kind : PerlClass) (negated : Bool)
  | property (query : PropertyQuery) (negated : Bool)
  | bracketed (negated : Bool) (set : ClassSet)
  | repetition (sub : Pattern) (min : Nat) (max : Option Nat) (greedy : Bool)
  | group (kind : GroupKind) (sub : Pattern)
  | alternation (branches : List Pattern)
  | concat (parts : List Pattern)

instance : Inhabited Pattern := ⟨.empty⟩

namespace Pattern

/-- One pattern of several in sequence. -/
def ofParts : List Pattern → Pattern
  | [] => .empty
  | [p] => p
  | ps => .concat ps

/-- One pattern of several branches. -/
def ofBranches : List Pattern → Pattern
  | [] => .empty
  | [p] => p
  | ps => .alternation ps

end Pattern

mutual

/-- How deep the brackets of an item nest. -/
def ClassItem.depth : ClassItem → Nat
  | .bracketed _ set => set.depth + 1
  | _ => 0

/-- How deep the brackets of a class nest. -/
def ClassSet.depth : ClassSet → Nat
  | .union items => itemsDepth items + (if items.length = 1 then 0 else 1)
  | .op _ left right => max left.depth right.depth + 1

/-- How deep the brackets of items nest. -/
def itemsDepth : List ClassItem → Nat
  | [] => 0
  | i :: is => max i.depth (itemsDepth is)

end

mutual

/-- How deep a pattern nests. -/
def Pattern.depth : Pattern → Nat
  | .bracketed _ set => set.depth + 1
  | .repetition sub _ _ _ => sub.depth + 1
  | .group _ sub => sub.depth + 1
  | .alternation branches => patternsDepth branches + 1
  | .concat parts => patternsDepth parts + 1
  | _ => 0

/-- How deep patterns nest. -/
def patternsDepth : List Pattern → Nat
  | [] => 0
  | p :: ps => max p.depth (patternsDepth ps)

end

end Codemod.Regex
