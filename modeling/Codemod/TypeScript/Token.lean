/-!
# Tokens of a TypeScript source

A token knows its kind, where it starts and stops, whether a line break stands before it, and the
comments between it and the token before.  All offsets count bytes of UTF-8.

## Main definitions

* `Cursor` — a place in the source: the characters that follow and the bytes before.
* `Comment`, `Occurrence` — a comment and an identifier with their places.
* `TokenKind`, `Token` — what the lexer hands to the parser.
* `isReserved` — the words that cannot be identifiers in a module.
-/

namespace Codemod.TypeScript

/-- A place in the source. -/
structure Cursor where
  /-- The characters from here on. -/
  rest : List Char
  /-- The number of bytes before this place. -/
  pos : Nat
  deriving Inhabited

namespace Cursor

/-- The place one character further. -/
def next (c : Cursor) : Cursor :=
  match c.rest with
  | [] => c
  | ch :: rest => ⟨rest, c.pos + ch.utf8Size⟩

/-- The place a number of characters further. -/
def skip (c : Cursor) : Nat → Cursor
  | 0 => c
  | n + 1 => c.next.skip n

/-- The place after the longest run of characters that satisfy `p`. -/
def skipWhile (p : Char → Bool) (c : Cursor) : Cursor :=
  let rec go (pos : Nat) : List Char → Cursor
    | [] => ⟨[], pos⟩
    | ch :: rest => if p ch then go (pos + ch.utf8Size) rest else ⟨ch :: rest, pos⟩
  go c.pos c.rest

end Cursor

/-- The two forms of a comment. -/
inductive CommentKind
  /-- From two slashes to the end of the line. -/
  | line
  /-- Between `/*` and `*/`. -/
  | block
  deriving DecidableEq, Repr, Inhabited

/-- A comment, its delimiters included. -/
structure Comment where
  start : Nat
  stop : Nat
  kind : CommentKind
  deriving DecidableEq, Repr, Inhabited

/-- An identifier where it occurs: the name it spells, escapes resolved, and its first byte. -/
structure Occurrence where
  name : String
  start : Nat
  deriving DecidableEq, Repr, Inhabited

/-- Punctuation and operators.  The operators of one kind that the grammar treats alike share a
constructor. -/
inductive Punct
  | lbrace | rbrace | lparen | rparen | lbracket | rbracket
  | semi | comma | dot | ellipsis | question | questionDot | colon | arrow | at
  | bang | tilde | plusPlus | minusMinus
  | assign
  /-- A compound assignment such as `+=`. -/
  | assignOp
  /-- The compound assignment `/=`, which may also start a regular expression. -/
  | slashAssign
  | lt | gt
  /-- One of `<=` and `>=`. -/
  | order
  | shl
  /-- One of `>>` and `>>>`. -/
  | shr
  /-- One of `==`, `!=`, `===` and `!==`. -/
  | equality
  | plus | minus | star | slash | percent | starStar
  | amp | pipe | caret | ampAmp | pipePipe | nullish
  deriving DecidableEq, Repr, Inhabited

/-- What a token is. -/
inductive TokenKind
  /-- An identifier or keyword, by the name it spells. -/
  | word (name : String)
  /-- A name after `#`. -/
  | privateName
  | number
  /-- A string literal, by the characters between its quotes. -/
  | string (raw : String)
  | regex
  /-- The quote that opens a template. -/
  | template
  | punct (p : Punct)
  /-- The text between two tags. -/
  | jsxText
  | eof
  /-- Characters that form no token. -/
  | error
  deriving DecidableEq, Repr, Inhabited

/-- A token of the source. -/
structure Token where
  kind : TokenKind
  /-- The offset reported for a name that starts here. -/
  start : Nat
  /-- The place of the first character. -/
  begin : Cursor
  /-- The place after the last character. -/
  stop : Cursor
  newlineBefore : Bool
  comments : List Comment
  deriving Inhabited

/-- Words that are reserved everywhere. -/
def reservedWords : List String :=
  ["break", "case", "catch", "continue", "debugger", "default", "do", "else", "finally", "for",
   "function", "if", "return", "switch", "throw", "try", "var", "const", "while", "with", "new",
   "this", "super", "class", "extends", "export", "import", "in", "instanceof", "typeof", "void",
   "delete", "null", "true", "false", "enum"]

/-- Words that are reserved in strict code. -/
def strictWords : List String :=
  ["let", "static", "yield", "await", "implements", "package", "protected", "interface",
   "private", "public"]

/-- `isReserved w` tells whether the word `w` is reserved in a module, whose code is strict. -/
def isReserved (w : String) : Bool := reservedWords.contains w || strictWords.contains w

end Codemod.TypeScript
