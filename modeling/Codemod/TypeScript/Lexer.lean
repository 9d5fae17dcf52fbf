import Codemod.Text.IdentifierChar
import Codemod.TypeScript.Token

/-!
# Reading tokens

The lexer never fails: characters that form no token give a token of kind `TokenKind.error`, at
which every rule of the grammar stops.  Some characters mean different things in different places,
and there the parser asks for another reading of the same place: a slash may divide or open a
regular expression, `>` may close type arguments or compare, and text between tags is not split
into tokens at all.

## Main definitions

* `lex` — the token at a place, with the blanks and comments before it.
* `relexAngle`, `relexRegex` — the readings of `>` and `/` as an operator and as a regular
  expression.
* `lexTemplateChunk` — the text of a template up to its end or the next substitution.
* `lexJsxChild`, `lexJsxName`, `lexJsxString` — the readings between and within tags.
-/

namespace Codemod.TypeScript

open Codemod.Text

/-! ### Characters -/

/-- `isLineBreak c` tells whether `c` ends a line. -/
def isLineBreak (c : Char) : Bool :=
  c = '\n' || c = '\r' || c.toNat = 0x2028 || c.toNat = 0x2029

/-- `isBlank c` tells whether `c` is blank space within a line. -/
def isBlank (c : Char) : Bool :=
  c = ' ' || c = '\t' || c = '\x0b' || c = '\x0c' ||
    [0xA0, 0xFEFF, 0x1680, 0x202F, 0x205F, 0x3000].contains c.toNat ||
    (0x2000 ≤ c.toNat && c.toNat ≤ 0x200A)

/-- `isNameStart c` tells whether `c` may start a name. -/
def isNameStart (c : Char) : Bool := c = '$' || c = '_' || isIdStart c

/-- `isNameContinue c` tells whether `c` may continue a name. -/
def isNameContinue (c : Char) : Bool :=
  c = '$' || c.toNat = 0x200C || c.toNat = 0x200D || isIdContinue c

/-- The value of a hexadecimal digit. -/
def hexValue? (c : Char) : Option Nat :=
  if c.isDigit then some (c.toNat - '0'.toNat)
  else if 'a' ≤ c && c ≤ 'f' then some (c.toNat - 'a'.toNat + 10)
  else if 'A' ≤ c && c ≤ 'F' then some (c.toNat - 'A'.toNat + 10)
  else none

/-- `isHex c` tells whether `c` is a hexadecimal digit. -/
def isHex (c : Char) : Bool := (hexValue? c).isSome

/-- The number that hexadecimal digits spell; other characters count as zero. -/
def hexNumber (cs : List Char) : Nat :=
  cs.foldl (fun n c => 16 * n + (hexValue? c).getD 0) 0

/-! ### Blanks and comments -/

/-- What stands between two tokens. -/
structure Trivia where
  newline : Bool
  /-- The comments, the last one first. -/
  comments : List Comment
  stop : Cursor

/-- Where the scan between two tokens stands. -/
inductive TriviaMode
  | blank
  /-- In a line comment that starts here. -/
  | line (start : Nat)
  /-- In a block comment that starts here. -/
  | block (start : Nat)

/-- Skips blanks and comments.  A block comment without an end reaches to the end of the source
and is not reported. -/
def scanTrivia (pos : Nat) (newline : Bool) (found : List Comment) :
    TriviaMode → List Char → Trivia
  | .line start, [] => ⟨newline, ⟨start, pos, .line⟩ :: found, ⟨[], pos⟩⟩
  | .line start, c :: rest =>
    if isLineBreak c then
      scanTrivia (pos + c.utf8Size) true (⟨start, pos, .line⟩ :: found) .blank rest
    else scanTrivia (pos + c.utf8Size) newline found (.line start) rest
  | .block _, [] => ⟨newline, found, ⟨[], pos⟩⟩
  | .block start, '*' :: '/' :: rest =>
    scanTrivia (pos + 2) newline (⟨start, pos + 2, .block⟩ :: found) .blank rest
  | .block start, c :: rest =>
    scanTrivia (pos + c.utf8Size) (newline || isLineBreak c) found (.block start) rest
  | .blank, [] => ⟨newline, found, ⟨[], pos⟩⟩
  | .blank, '/' :: '/' :: rest => scanTrivia (pos + 2) newline found (.line pos) rest
  | .blank, '/' :: '*' :: rest => scanTrivia (pos + 2) newline found (.block pos) rest
  | .blank, c :: rest =>
    if isLineBreak c then scanTrivia (pos + c.utf8Size) true found .blank rest
    else if isBlank c then scanTrivia (pos + c.utf8Size) newline found .blank rest
    else ⟨newline, found, ⟨c :: rest, pos⟩⟩

/-- Skips also the comments that a browser accepts: `<!--` anywhere and `-->` at the start of a
line open a comment to the end of the line. -/
def scanLegacy : Nat → Trivia → Trivia
  | 0, t => t
  | fuel + 1, t =>
    match t.stop.rest with
    | '<' :: '!' :: '-' :: '-' :: rest =>
      scanLegacy fuel (scanTrivia (t.stop.pos + 4) t.newline t.comments (.line (t.stop.pos + 1)) rest)
    | '-' :: '-' :: '>' :: rest =>
      if t.newline then
        scanLegacy fuel
          (scanTrivia (t.stop.pos + 3) t.newline t.comments (.line (t.stop.pos + 3)) rest)
      else t
    | _ => t

/-! ### Words -/

/-- Reads an escape of the form `uXXXX` or `u{X…}` after a backslash: the code point and the place
after it. -/
def unicodeEscape? (c : Cursor) : Option (Nat × Cursor) :=
  match c.rest with
  | 'u' :: '\x7b' :: _ =>
    let digits := (c.skip 2).rest.takeWhile isHex
    let after := (c.skip 2).skipWhile isHex
    match after.rest with
    | '\x7d' :: _ =>
      if digits.isEmpty || hexNumber digits > 0x10FFFF then none
      else some (hexNumber digits, after.next)
    | _ => none
  | 'u' :: a :: b :: d :: e :: _ =>
    if isHex a && isHex b && isHex d && isHex e then some (hexNumber [a, b, d, e], c.skip 5)
    else none
  | _ => none

/-- A word: the characters it spells, whether it holds an escape, and the place after it. -/
structure Word where
  spelling : List Char
  escaped : Bool
  stop : Cursor

/-- Reads a word; `none` if an escape in it is malformed. -/
def scanWord : Nat → List Char → Bool → Cursor → Option Word
  | 0, spelt, escaped, c => some ⟨spelt.reverse, escaped, c⟩
  | fuel + 1, spelt, escaped, c =>
    match c.rest with
    | [] => some ⟨spelt.reverse, escaped, c⟩
    | '\\' :: _ =>
      match unicodeEscape? c.next with
      | none => none
      | some (n, after) =>
        if n.isValidChar then scanWord fuel (Char.ofNat n :: spelt) true after else none
    | ch :: _ =>
      if isNameContinue ch then scanWord fuel (ch :: spelt) escaped c.next
      else some ⟨spelt.reverse, escaped, c⟩

/-- The token of a word.  A reserved word may not hold an escape. -/
def lexWord (c : Cursor) : TokenKind × Cursor :=
  match scanWord c.rest.length [] false c with
  | none => (.error, c.next)
  | some w =>
    let name := String.ofList w.spelling
    if w.escaped && isReserved name then (.error, w.stop) else (.word name, w.stop)

/-! ### Numbers, strings and regular expressions -/

/-- `isDigitOrSeparator c` tells whether `c` is a digit or a separator of digits. -/
def isDigitOrSeparator (c : Char) : Bool := c.isDigit || c = '_'

/-- A number may not be followed by a name. -/
def endNumber (c : Cursor) : TokenKind × Cursor :=
  match c.rest with
  | ch :: _ => if isNameStart ch || ch = '\\' then (.error, c) else (.number, c)
  | [] => (.number, c)

/-- Reads the exponent of a number, if there is one. -/
def lexExponent (c : Cursor) : TokenKind × Cursor :=
  match c.rest with
  | e :: rest =>
    if e = 'e' || e = 'E' then
      let digits :=
        match rest with
        | '+' :: _ => c.skip 2
        | '-' :: _ => c.skip 2
        | _ => c.next
      match digits.rest with
      | d :: _ => if d.isDigit then endNumber (digits.skipWhile isDigitOrSeparator) else (.error, c)
      | [] => (.error, c)
    else endNumber c
  | [] => endNumber c

/-- Reads the digits of a number in a base that a letter names. -/
def lexRadix (isRadixDigit : Char → Bool) (c : Cursor) : TokenKind × Cursor :=
  match c.rest with
  | d :: _ =>
    if isRadixDigit d then
      let stop := c.skipWhile fun ch => isRadixDigit ch || ch = '_'
      match stop.rest with
      | 'n' :: _ => endNumber stop.next
      | _ => endNumber stop
    else (.error, c)
  | [] => (.error, c)

/-- Reads a number that starts with a digit, or with a point before a digit. -/
def lexNumber (c : Cursor) : TokenKind × Cursor :=
  match c.rest with
  | '0' :: 'x' :: _ => lexRadix isHex (c.skip 2)
  | '0' :: 'X' :: _ => lexRadix isHex (c.skip 2)
  | '0' :: 'o' :: _ => lexRadix (fun d => '0' ≤ d && d ≤ '7') (c.skip 2)
  | '0' :: 'O' :: _ => lexRadix (fun d => '0' ≤ d && d ≤ '7') (c.skip 2)
  | '0' :: 'b' :: _ => lexRadix (fun d => d = '0' || d = '1') (c.skip 2)
  | '0' :: 'B' :: _ => lexRadix (fun d => d = '0' || d = '1') (c.skip 2)
  | '.' :: _ => lexExponent (c.next.skipWhile isDigitOrSeparator)
  | _ =>
    let whole := c.skipWhile isDigitOrSeparator
    match whole.rest with
    | 'n' :: _ => endNumber whole.next
    | '.' :: _ => lexExponent (whole.next.skipWhile isDigitOrSeparator)
    | _ => lexExponent whole

/-- How an escape in a string or template reads. -/
inductive Escape
  /-- A well-formed escape, and the place after it. -/
  | ok (stop : Cursor)
  /-- An octal escape, which a string tolerates and a template does not. -/
  | octal (stop : Cursor)
  | bad

/-- Reads what follows a backslash. -/
def scanEscape (c : Cursor) : Escape :=
  match c.rest with
  | [] => .ok c
  | 'u' :: _ =>
    match unicodeEscape? c with
    | some (_, stop) => .ok stop
    | none => .bad
  | 'x' :: a :: b :: _ => if isHex a && isHex b then .ok (c.skip 3) else .bad
  | 'x' :: _ => .bad
  | '\r' :: '\n' :: _ => .ok (c.skip 2)
  | '0' :: d :: _ => if d.isDigit then .octal c.next else .ok c.next
  | d :: _ => if d.isDigit && d ≠ '0' then .octal c.next else .ok c.next

/-- Reads a string after its opening quote.  A string that is not closed ends with the line. -/
def scanString (quote : Char) : Nat → List Char → Cursor → TokenKind × Cursor
  | 0, _, c => (.error, c)
  | fuel + 1, raw, c =>
    match c.rest with
    | [] => (.string (String.ofList raw.reverse), c)
    | '\\' :: _ =>
      match scanEscape c.next with
      | .ok stop => scanString quote fuel ('\\' :: raw) stop
      | .octal stop => scanString quote fuel ('\\' :: raw) stop
      | .bad => (.error, c)
    | ch :: _ =>
      if ch = quote then (.string (String.ofList raw.reverse), c.next)
      else if ch = '\n' || ch = '\r' then (.string (String.ofList raw.reverse), c)
      else scanString quote fuel (ch :: raw) c.next

/-- The place after the slash that closes a regular expression. -/
def regexEnd? (inClass : Bool) (pos : Nat) : List Char → Option Cursor
  | [] => none
  | '\\' :: c :: rest =>
    if isLineBreak c then none else regexEnd? inClass (pos + 1 + c.utf8Size) rest
  | c :: rest =>
    if isLineBreak c then none
    else if c = '/' && !inClass then some ⟨rest, pos + 1⟩
    else if c = '[' then regexEnd? true (pos + 1) rest
    else if c = ']' then regexEnd? false (pos + 1) rest
    else regexEnd? inClass (pos + c.utf8Size) rest

/-- Reads a regular expression that starts at a token's first character. -/
def relexRegex (t : Token) : Token :=
  match regexEnd? false t.begin.next.pos t.begin.next.rest with
  | none => { t with kind := .error }
  | some c => { t with kind := .regex, stop := c.skipWhile isNameContinue }

/-! ### Punctuation -/

/-- The punctuation mark at a place and its length in characters.  The sign `>` is read alone. -/
def scanPunct? : List Char → Option (Punct × Nat)
  | '\x7b' :: _ => some (.lbrace, 1)
  | '\x7d' :: _ => some (.rbrace, 1)
  | '(' :: _ => some (.lparen, 1)
  | ')' :: _ => some (.rparen, 1)
  | '[' :: _ => some (.lbracket, 1)
  | ']' :: _ => some (.rbracket, 1)
  | ';' :: _ => some (.semi, 1)
  | ',' :: _ => some (.comma, 1)
  | '.' :: '.' :: '.' :: _ => some (.ellipsis, 3)
  | '.' :: _ => some (.dot, 1)
  | '?' :: '?' :: '=' :: _ => some (.assignOp, 3)
  | '?' :: '?' :: _ => some (.nullish, 2)
  | '?' :: '.' :: d :: _ => if d.isDigit then some (.question, 1) else some (.questionDot, 2)
  | '?' :: '.' :: [] => some (.questionDot, 2)
  | '?' :: _ => some (.question, 1)
  | ':' :: _ => some (.colon, 1)
  | '@' :: _ => some (.at, 1)
  | '~' :: _ => some (.tilde, 1)
  | '=' :: '>' :: _ => some (.arrow, 2)
  | '=' :: '=' :: '=' :: _ => some (.equality, 3)
  | '=' :: '=' :: _ => some (.equality, 2)
  | '=' :: _ => some (.assign, 1)
  | '!' :: '=' :: '=' :: _ => some (.equality, 3)
  | '!' :: '=' :: _ => some (.equality, 2)
  | '!' :: _ => some (.bang, 1)
  | '+' :: '+' :: _ => some (.plusPlus, 2)
  | '+' :: '=' :: _ => some (.assignOp, 2)
  | '+' :: _ => some (.plus, 1)
  | '-' :: '-' :: _ => some (.minusMinus, 2)
  | '-' :: '=' :: _ => some (.assignOp, 2)
  | '-' :: _ => some (.minus, 1)
  | '*' :: '*' :: '=' :: _ => some (.assignOp, 3)
  | '*' :: '*' :: _ => some (.starStar, 2)
  | '*' :: '=' :: _ => some (.assignOp, 2)
  | '*' :: _ => some (.star, 1)
  | '/' :: '=' :: _ => some (.slashAssign, 2)
  | '/' :: _ => some (.slash, 1)
  | '%' :: '=' :: _ => some (.assignOp, 2)
  | '%' :: _ => some (.percent, 1)
  | '&' :: '&' :: '=' :: _ => some (.assignOp, 3)
  | '&' :: '&' :: _ => some (.ampAmp, 2)
  | '&' :: '=' :: _ => some (.assignOp, 2)
  | '&' :: _ => some (.amp, 1)
  | '|' :: '|' :: '=' :: _ => some (.assignOp, 3)
  | '|' :: '|' :: _ => some (.pipePipe, 2)
  | '|' :: '=' :: _ => some (.assignOp, 2)
  | '|' :: _ => some (.pipe, 1)
  | '^' :: '=' :: _ => some (.assignOp, 2)
  | '^' :: _ => some (.caret, 1)
  | '<' :: '<' :: '=' :: _ => some (.assignOp, 3)
  | '<' :: '<' :: _ => some (.shl, 2)
  | '<' :: '=' :: _ => some (.order, 2)
  | '<' :: _ => some (.lt, 1)
  | '>' :: _ => some (.gt, 1)
  | _ => none

/-- The operator that starts with `>` and its length. -/
def scanAngle : List Char → Punct × Nat
  | '>' :: '>' :: '>' :: '=' :: _ => (.assignOp, 4)
  | '>' :: '>' :: '>' :: _ => (.shr, 3)
  | '>' :: '>' :: '=' :: _ => (.assignOp, 3)
  | '>' :: '>' :: _ => (.shr, 2)
  | '>' :: '=' :: _ => (.order, 2)
  | _ => (.gt, 1)

/-- Reads a token `>` as the longest operator that starts there. -/
def relexAngle (t : Token) : Token :=
  let (p, n) := scanAngle t.begin.rest
  { t with kind := .punct p, stop := t.begin.skip n }

/-- Reads a token `<<` as `<`. -/
def cutShift (t : Token) : Token := { t with kind := .punct .lt, stop := t.begin.next }

/-! ### Tokens -/

/-- The token at a place where no blank and no comment starts. -/
def lexHere (c : Cursor) : TokenKind × Cursor :=
  match c.rest with
  | [] => (.eof, c)
  | ch :: rest =>
    if isNameStart ch || ch = '\\' then lexWord c
    else if ch.isDigit then lexNumber c
    else if ch = '\x22' || ch = '\x27' then scanString ch (rest.length + 1) [] c.next
    else if ch = '\x60' then (.template, c.next)
    else if ch = '#' then
      match rest with
      | d :: _ =>
        if isNameStart d || d = '\\' then
          match lexWord c.next with
          | (.word _, stop) => (.privateName, stop)
          | _ => (.error, c.next)
        else (.error, c.next)
      | [] => (.error, c.next)
    else
      match ch, rest with
      | '.', d :: _ => if d.isDigit then lexNumber c else lexPunct c
      | _, _ => lexPunct c
where
  lexPunct (c : Cursor) : TokenKind × Cursor :=
    match scanPunct? c.rest with
    | some (p, n) => (.punct p, c.skip n)
    | none => (.error, c.next)

/-- The token that follows a place, with all that stands before it. -/
def lex (c : Cursor) : Token :=
  let plain := scanTrivia c.pos false [] .blank c.rest
  let t := scanLegacy plain.stop.rest.length plain
  let (kind, stop) := lexHere t.stop
  ⟨kind, plain.stop.pos, t.stop, stop, t.newline, t.comments.reverse⟩

/-- The first token, which counts as the first of a line.  A first line that starts with `#!` is
skipped. -/
def lexFirst (c : Cursor) : Token :=
  let start :=
    match c.rest with
    | '#' :: '!' :: _ => c.skipWhile fun ch => !isLineBreak ch
    | _ => c
  let plain := scanTrivia start.pos true [] .blank start.rest
  let t := scanLegacy plain.stop.rest.length plain
  let (kind, stop) := lexHere t.stop
  ⟨kind, plain.stop.pos, t.stop, stop, true, t.comments.reverse⟩

/-! ### Templates and tags -/

/-- How a chunk of template text ends. -/
inductive ChunkEnd
  /-- At the closing quote. -/
  | close
  /-- At the start of a substitution. -/
  | substitution
  /-- With the source. -/
  | unterminated

/-- Reads template text: how it ends, whether its escapes are all well formed, and the place after
the mark that ends it. -/
def scanChunk : Nat → Bool → Cursor → ChunkEnd × Bool × Cursor
  | 0, valid, c => (.unterminated, valid, c)
  | fuel + 1, valid, c =>
    match c.rest with
    | [] => (.unterminated, valid, c)
    | '\x60' :: _ => (.close, valid, c.next)
    | '$' :: '\x7b' :: _ => (.substitution, valid, c.skip 2)
    | '\\' :: _ =>
      match scanEscape c.next with
      | .ok stop => scanChunk fuel valid stop
      | .octal stop => scanChunk fuel false stop
      | .bad => scanChunk fuel false (c.skip 2)
    | _ :: _ => scanChunk fuel valid c.next

/-- Reads template text from a place inside a template. -/
def lexTemplateChunk (c : Cursor) : ChunkEnd × Bool × Cursor :=
  scanChunk (c.rest.length + 1) true c

/-- The token after the end of a tag: a tag, a substitution, or the text before the next one. -/
def lexJsxChild (c : Cursor) : Token :=
  match c.rest with
  | [] => ⟨.eof, c.pos, c, c, false, []⟩
  | '<' :: _ => ⟨.punct .lt, c.pos, c, c.next, false, []⟩
  | '\x7b' :: _ => ⟨.punct .lbrace, c.pos, c, c.next, false, []⟩
  | _ =>
    let stop := c.skipWhile fun ch => ch ≠ '<' && ch ≠ '\x7b'
    ⟨.jsxText, c.pos, c, stop, false, []⟩

/-- Reads a word as a name in a tag, which may hold hyphens. -/
def lexJsxName (t : Token) : Token :=
  match t.kind with
  | .word _ =>
    let stop := t.begin.skipWhile fun ch => isNameContinue ch || ch = '-'
    let name := t.begin.rest.takeWhile fun ch => isNameContinue ch || ch = '-'
    { t with kind := .word (String.ofList name), stop := stop }
  | _ => t

/-- Reads an attribute's string, in which nothing is escaped and lines may end. -/
def lexJsxString (t : Token) : Token :=
  match t.begin.rest with
  | q :: _ =>
    if q = '\x22' || q = '\x27' then
      let stop := t.begin.next.skipWhile fun ch => ch ≠ q
      match stop.rest with
      | [] => { t with kind := .error }
      | _ :: _ => { t with kind := .string "", stop := stop.next }
    else t
  | [] => t

end Codemod.TypeScript
