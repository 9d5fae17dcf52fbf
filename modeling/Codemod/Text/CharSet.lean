/-!
# Sets of characters

A set of characters is kept as its maximal intervals of code points, in ascending order.  The
intervals of the Unicode properties are stored as text and read by `CharSet.decode`.

## Main definitions

* `CharSet` — ascending intervals of code points.
* `CharSet.mem` — membership, which stops at the first interval above the code point.
* `CharSet.ofIntervals` — the set covered by intervals given in any order.
* `CharSet.union`, `inter`, `compl`, `diff`, `symmDiff` — the operations of a Boolean algebra.
-/

namespace Codemod.Text

/-- A closed interval of code points. -/
structure Interval where
  lo : Nat
  hi : Nat
  deriving DecidableEq, Repr, Inhabited

/-- Ascending, disjoint intervals of code points that do not touch. -/
structure CharSet where
  intervals : List Interval
  deriving DecidableEq, Repr, Inhabited

namespace CharSet

/-- The last code point. -/
def top : Nat := 0x10FFFF

/-- Membership in a list of ascending intervals. -/
def memIntervals (n : Nat) : List Interval → Bool
  | [] => false
  | i :: is => if n < i.lo then false else n ≤ i.hi || memIntervals n is

/-- `s.mem n` tells whether the set `s` holds the code point `n`. -/
def mem (s : CharSet) (n : Nat) : Bool := memIntervals n s.intervals

/-- `s.contains c` tells whether the set `s` holds `c`. -/
def contains (s : CharSet) (c : Char) : Bool := s.mem c.toNat

/-- The empty set. -/
def empty : CharSet := ⟨[]⟩

/-- The set of all code points. -/
def all : CharSet := ⟨[⟨0, top⟩]⟩

/-- The set of one interval; an inverted interval gives the empty set. -/
def interval (lo hi : Nat) : CharSet := if lo ≤ hi then ⟨[⟨lo, hi⟩]⟩ else empty

/-- The set of one code point. -/
def singleton (n : Nat) : CharSet := ⟨[⟨n, n⟩]⟩

/-- The set covered by the intervals of a list in any order. -/
def ofIntervals (is : List Interval) : CharSet :=
  let ordered := (is.filter fun i => i.lo ≤ i.hi).mergeSort fun a b => a.lo ≤ b.lo
  -- An interval may swallow several of its successors, so joining goes from the left.
  let rec join (cur : Interval) : List Interval → List Interval
    | [] => [cur]
    | j :: js => if j.lo ≤ cur.hi + 1 then join ⟨cur.lo, max cur.hi j.hi⟩ js else cur :: join j js
  match ordered with
  | [] => empty
  | i :: rest => ⟨join i rest⟩

/-- The code points in either set. -/
def union (s t : CharSet) : CharSet := ofIntervals (s.intervals ++ t.intervals)

/-- The intervals between those of an ascending list, from a given code point on. -/
def gaps (start : Nat) : List Interval → List Interval
  | [] => if start ≤ top then [⟨start, top⟩] else []
  | i :: is => if start < i.lo then ⟨start, i.lo - 1⟩ :: gaps (i.hi + 1) is else gaps (i.hi + 1) is

/-- The code points not in the set. -/
def compl (s : CharSet) : CharSet := ⟨gaps 0 s.intervals⟩

/-- The code points in both sets. -/
def inter (s t : CharSet) : CharSet := (s.compl.union t.compl).compl

/-- The code points of the first set that are not in the second. -/
def diff (s t : CharSet) : CharSet := s.inter t.compl

/-- The code points in exactly one of the sets. -/
def symmDiff (s t : CharSet) : CharSet := (s.diff t).union (t.diff s)

/-- The value of a digit in base 36. -/
def digit36 (c : Char) : Nat :=
  if c.isDigit then c.toNat - '0'.toNat else c.toNat - 'a'.toNat + 10

/-- Reads numbers in base 36 that are divided by blanks. -/
def decodeNumbers (cur : Nat) : List Char → List Nat
  | [] => [cur]
  | c :: cs => if c = ' ' then cur :: decodeNumbers 0 cs else decodeNumbers (36 * cur + digit36 c) cs

/-- Reads pairs of a gap and a length as intervals. -/
def decodePairs (start : Nat) : List Nat → List Interval
  | gap :: size :: rest =>
    ⟨start + gap, start + gap + size - 1⟩ :: decodePairs (start + gap + size) rest
  | _ => []

/-- Reads the stored form of a set: for each interval the number of code points skipped before it
and the number of code points in it, in base 36. -/
def decode (s : String) : CharSet :=
  if s.isEmpty then empty else ⟨decodePairs 0 (decodeNumbers 0 s.toList)⟩

end CharSet

end Codemod.Text
