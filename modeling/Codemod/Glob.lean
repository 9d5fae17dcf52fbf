/-!
# Globs

A glob stands for a set of paths.  A star stands for any part of a name and a question mark for one
character of it; a class in brackets stands for one of its characters.  Two stars that are a name of
their own stand for any number of names.

## Main definitions

* `GlobError` — why a text is no glob.
* `Glob` — a glob.
* `Glob.parse` — reads a glob.
* `Glob.accepts` — whether a path is in the set.
-/

namespace Codemod

/-- Why a text is no glob. -/
inductive GlobError
  /-- There are more than two stars in a row. -/
  | wildcards
  /-- Two stars are not a name of their own. -/
  | recursiveWildcards
  /-- A class is not closed. -/
  | range
  deriving DecidableEq, Repr, Inhabited

/-- The words for a refusal. -/
def GlobError.message : GlobError → String
  | wildcards => "wildcards are either regular `*` or recursive `**`"
  | recursiveWildcards => "recursive wildcards must form a single path component"
  | range => "invalid range pattern"

/-- A member of a class. -/
inductive ClassMember
  | char (c : Char)
  | range (lo hi : Char)
  deriving DecidableEq, Repr, Inhabited

/-- `m.has c` tells whether `c` is the member `m`, or in its range. -/
def ClassMember.has (c : Char) : ClassMember → Bool
  | char d => c = d
  | range lo hi => lo ≤ c && c ≤ hi

/-- A part of a glob. -/
inductive GlobToken
  | char (c : Char)
  | anyChar
  /-- Any part of a name. -/
  | anySequence
  /-- Any number of names. -/
  | anyNames
  | within (members : List ClassMember)
  | except (members : List ClassMember)
  deriving DecidableEq, Repr, Inhabited

/-- A glob. -/
abbrev Glob := List GlobToken

namespace Glob

/-! ### Reading -/

/-- The members of a class. -/
def classMembers : List Char → List ClassMember
  | a :: '-' :: b :: rest => .range a b :: classMembers rest
  | a :: rest => .char a :: classMembers rest
  | [] => []

/-- A class after its bracket, and the number of characters of it. -/
def readClass (rest : List Char) : Except GlobError (GlobToken × Nat) :=
  let negated := rest.head? = some '!'
  let body := if negated then rest.drop 1 else rest
  match body with
  | first :: others =>
    if others.contains ']' then
      let inner := first :: others.takeWhile (· ≠ ']')
      let members := classMembers inner
      if negated then .ok (.except members, inner.length + 2)
      else .ok (.within members, inner.length + 1)
    else .error .range
  | [] => .error .range

/-- Stars after the first one, and the number of characters that belong to them.  Two stars take the
slash after them along. -/
def readStars (prev : Option Char) (rest : List Char) : Except GlobError (GlobToken × Nat) :=
  match (rest.takeWhile (· = '*')).length with
  | 0 => .ok (.anySequence, 0)
  | 1 =>
    if prev.all (· = '/') then
      match rest.drop 1 with
      | [] => .ok (.anyNames, 1)
      | c :: _ => if c = '/' then .ok (.anyNames, 2) else .error .recursiveWildcards
    else .error .recursiveWildcards
  | _ => .error .wildcards

/-- The part that starts with a character, and the number of characters after it that belong to
it. -/
def readToken (prev : Option Char) (c : Char) (rest : List Char) :
    Except GlobError (GlobToken × Nat) :=
  if c = '?' then .ok (.anyChar, 0)
  else if c = '*' then readStars prev rest
  else if c = '[' then readClass rest
  else .ok (.char c, 0)

/-- Adds a part to those read, of which the last stands first.  Any number of names after any number
of names is the same as one of them; at the very start both are kept. -/
def push (t : GlobToken) (read : List GlobToken) : List GlobToken :=
  match read with
  | .anyNames :: _ :: _ => if t = .anyNames then read else t :: read
  | _ => t :: read

/-- Reads parts; `skip` characters belong to a part that has been read. -/
def parseFrom (prev : Option Char) (read : List GlobToken) : (skip : Nat) → List Char →
    Except GlobError Glob
  | _, [] => .ok read.reverse
  | skip + 1, c :: rest => parseFrom (some c) read skip rest
  | 0, c :: rest =>
    match readToken prev c rest with
    | .error e => .error e
    | .ok (t, n) => parseFrom (some c) (push t read) n rest

/-- Reads a glob. -/
def parse (pattern : List Char) : Except GlobError Glob := parseFrom none [] 0 pattern

/-! ### Matching -/

/-- What a trial comes to. -/
inductive Trial
  | accepted
  /-- This way of taking the parts before does not do. -/
  | refused
  /-- The path ends too early for any way of taking the parts before. -/
  | exhausted
  deriving DecidableEq, Repr, Inhabited

/-- `t.fits c` tells whether the part `t`, which stands for one character, stands for `c`. -/
def GlobToken.fits (c : Char) : GlobToken → Bool
  | .char d => c = d
  | .anyChar => c ≠ '/'
  | .within members => c ≠ '/' && members.any (ClassMember.has c)
  | .except members => c ≠ '/' && !members.any (ClassMember.has c)
  | .anySequence | .anyNames => false

/-- Tries the rest of a glob after any part of a name, the shortest first. -/
def trySequence (rest : List Char → Trial) : List Char → Trial
  | [] => rest []
  | c :: cs =>
    match rest (c :: cs) with
    | .refused => if c = '/' then .refused else trySequence rest cs
    | t => t

/-- Tries the rest of a glob after any number of names, the fewest first; `here` tells whether a name
starts here.  In the end everything is taken. -/
def tryNames (rest : List Char → Trial) : (here : Bool) → List Char → Trial
  | _, [] => rest []
  | here, c :: cs =>
    if here then
      match rest (c :: cs) with
      | .refused => tryNames rest (c = '/') cs
      | t => t
    else tryNames rest (c = '/') cs

/-- Tries a glob on a path. -/
def tryOn : Glob → List Char → Trial
  | [], path => if path.isEmpty then .accepted else .refused
  | .anySequence :: ts, path => trySequence (tryOn ts) path
  | .anyNames :: ts, path => tryNames (tryOn ts) true path
  | _ :: _, [] => .exhausted
  | t :: ts, c :: path => if GlobToken.fits c t then tryOn ts path else .refused

/-- `g.accepts path` tells whether `path` is in the set of the glob `g`. -/
def accepts (g : Glob) (path : List Char) : Bool := tryOn g path = .accepted

end Glob

end Codemod
