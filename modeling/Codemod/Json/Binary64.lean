/-!
# Floating point numbers

The numbers of 53 binary digits that documents are read into, as exact values, and the shortest
decimal that reads back as such a number.

## Main definitions

* `Binary64` — a number `mantissa * 2 ^ exponent`.
* `Binary64.ofRatio?` — the number nearest to a fraction.
* `Binary64.render` — the shortest decimal of a number.
-/

namespace Codemod.Json

/-- A number `mantissa * 2 ^ exponent` that is not negative. -/
structure Binary64 where
  mantissa : Nat
  exponent : Int
  deriving DecidableEq, Repr, Inhabited

namespace Binary64

/-- Two raised to a power, as a fraction. -/
def pow2 (e : Int) : Nat × Nat := if 0 ≤ e then (Nat.pow 2 e.toNat, 1) else (1, Nat.pow 2 (-e).toNat)

/-- Ten raised to a power, as a fraction. -/
def pow10 (e : Int) : Nat × Nat := if 0 ≤ e then (Nat.pow 10 e.toNat, 1) else (1, Nat.pow 10 (-e).toNat)

/-- A number as a fraction. -/
def ratio (x : Binary64) : Nat × Nat :=
  let p := pow2 x.exponent
  (x.mantissa * p.1, p.2)

/-- A fraction rounded to the nearest whole number, half way to the even one. -/
def roundHalfEven (num den : Nat) : Nat :=
  let q := num / den
  let twice := 2 * (num % den)
  if den < twice || (twice = den && q % 2 = 1) then q + 1 else q

/-- The power of two that the last digit of a fraction's number stands for. -/
def unitExponent (num den : Nat) : Int :=
  let e : Int := (num.log2 : Int) - (den.log2 : Int) - 53
  let p := pow2 e
  let e := if Nat.pow 2 53 * (den * p.1) ≤ num * p.2 then e + 1 else e
  max e (-1074)

/-- The number nearest to a fraction; `none` if the fraction is too large. -/
def ofRatio? (num den : Nat) : Option Binary64 :=
  if num = 0 then some ⟨0, 0⟩
  else
    let e := unitExponent num den
    let p := pow2 e
    let x : Binary64 := ⟨roundHalfEven (num * p.2) (den * p.1), e⟩
    let r := x.ratio
    if Nat.pow 2 1024 * r.2 ≤ r.1 then none else some x

/-- The number nearest to a whole number. -/
def ofNat? (n : Nat) : Option Binary64 := ofRatio? n 1

/-- The product of a number and a power of ten that is itself taken as a number; `none` if it is too
large. -/
def scale? (x : Binary64) (e : Int) : Option Binary64 := do
  let ten ← ofNat? (Nat.pow 10 e.natAbs)
  let a := x.ratio
  let b := ten.ratio
  if 0 ≤ e then ofRatio? (a.1 * b.1) (a.2 * b.2) else ofRatio? (a.1 * b.2) (a.2 * b.1)

/-- `x.sameValue y` tells whether the numbers `x` and `y` are the same value. -/
def sameValue (x y : Binary64) : Bool :=
  let a := x.ratio
  let b := y.ratio
  a.1 * b.2 = b.1 * a.2

/-- `x.readsBack d e` tells whether the decimal `d * 10 ^ e` reads back as the number `x`. -/
def readsBack (x : Binary64) (d : Nat) (e : Int) : Bool :=
  let p := pow10 e
  (ofRatio? (d * p.1) p.2).any x.sameValue

/-- The power of ten of the first digit of a number that is not zero. -/
def decimalExponent (x : Binary64) : Int :=
  let r := x.ratio
  let guess : Int := ((Nat.toDigits 10 r.1).length : Int) - (Nat.toDigits 10 r.2).length
  let p := pow10 guess
  if r.2 * p.1 ≤ r.1 * p.2 then guess else guess - 1

/-- The decimal of `n` digits nearest to a number. -/
def nearestDecimal (x : Binary64) (n : Nat) : Nat × Int :=
  let e := x.decimalExponent - (n : Int) + 1
  let r := x.ratio
  let p := pow10 e
  (roundHalfEven (r.1 * p.2) (r.2 * p.1), e)

/-- The shortest decimal that reads back as a number. -/
def shortestDecimal (x : Binary64) : Nat × Int :=
  match ((List.range 17).map fun i => x.nearestDecimal (i + 1)).find? fun d => x.readsBack d.1 d.2 with
  | some d => d
  | none => x.nearestDecimal 17

/-- The digits of a decimal and the power of ten of the first one, without zeros at the end. -/
def scientific (d : Nat × Int) : List Char × Int :=
  let digits := Nat.toDigits 10 d.1
  let trimmed := (digits.reverse.dropWhile (· = '0')).reverse
  (trimmed, d.2 + (digits.length : Int) - 1)

/-- A number with at least two digits. -/
def twoDigits (n : Nat) : List Char :=
  let ds := Nat.toDigits 10 n
  if ds.length < 2 then '0' :: ds else ds

/-- The shortest text of a number.  Large and small numbers are written with a power of ten. -/
def render (x : Binary64) : List Char :=
  if x.mantissa = 0 then ['0', '.', '0']
  else
    let (digits, e) := scientific x.shortestDecimal
    if -4 ≤ e && e < 0 then
      ['0', '.'] ++ List.replicate ((-e).toNat - 1) '0' ++ digits
    else if 0 ≤ e && e < 16 then
      let whole := e.toNat + 1
      if digits.length ≤ whole then
        digits ++ List.replicate (whole - digits.length) '0' ++ ['.', '0']
      else digits.take whole ++ ['.'] ++ digits.drop whole
    else
      let fraction := if digits.length ≤ 1 then [] else '.' :: digits.drop 1
      let sign := if 0 ≤ e then '+' else '-'
      digits.take 1 ++ fraction ++ ['e', sign] ++ twoDigits e.natAbs

end Binary64

end Codemod.Json
