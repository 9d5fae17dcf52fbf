import Codemod.TypeScript.Token

/-!
# What the parser keeps of a syntax tree

A migration needs the identifiers of a source and nothing else of its syntax tree, so a node keeps
the identifiers that occur in it.  Expressions keep a little more, because an expression may turn
out to be a pattern once the parser meets `=` or `=>`: the expressions that can become patterns
keep their parts.

## Main definitions

* `Names` — the identifiers of a part of the source, joined without copying.
* `Expr`, `Pat` — expressions and patterns.
* `Expr.toPat?` — the pattern that an expression spells, if it can spell one.
* `Expr.isTarget` — the expressions that can stand left of `=`.
-/

namespace Codemod.TypeScript

/-- A collection of identifiers. -/
inductive Names
  | none
  | one (o : Occurrence)
  | join (a b : Names)
  deriving Inhabited

namespace Names

/-- Adds the identifiers before a list. -/
def prependTo : Names → List Occurrence → List Occurrence
  | none, tail => tail
  | one o, tail => o :: tail
  | join a b, tail => a.prependTo (b.prependTo tail)

/-- The identifiers in the order of joining. -/
def toList (n : Names) : List Occurrence := n.prependTo []

instance : Append Names := ⟨join⟩

/-- Joins the identifiers of several parts. -/
def concat (ns : List Names) : Names := ns.foldr join none

theorem prependTo_eq (n : Names) (tail : List Occurrence) :
    n.prependTo tail = n.toList ++ tail := by
  induction n generalizing tail with
  | none => rfl
  | one o => rfl
  | join a b iha ihb =>
    have hb : (join a b).toList = a.toList ++ b.toList := iha b.toList
    rw [prependTo, iha, ihb, hb, List.append_assoc]

@[simp]
theorem toList_none : none.toList = [] := rfl

@[simp]
theorem toList_one (o : Occurrence) : (one o).toList = [o] := rfl

@[simp]
theorem toList_append (a b : Names) : (a ++ b).toList = a.toList ++ b.toList :=
  prependTo_eq a b.toList

end Names

/-- The forms of a pattern. -/
inductive PatKind
  | ident
  | array
  | object
  | rest
  /-- A pattern with a default. -/
  | assign
  /-- An expression that is assigned to. -/
  | expr
  /-- What should be a pattern and is none. -/
  | invalid
  deriving DecidableEq, Repr, Inhabited

/-- A pattern: its form and the identifiers in it. -/
structure Pat where
  kind : PatKind
  names : Names
  deriving Inhabited

/-- The forms of expressions whose parts are not kept. -/
inductive ExprKind
  | paren | member | superMember | optionalChain | call | new | literal | function | classBody
  | template | asType | satisfies | nonNull | typeAssertion | instantiation
  | unary | update | binary | conditional | await
  /-- What should be an expression and is none. -/
  | invalid
  | other
  deriving DecidableEq, Repr, Inhabited

mutual

/-- An expression. -/
inductive Expr
  | ident (o : Occurrence)
  /-- A function written with `=>`; the flag tells whether its body is a block. -/
  | arrow (names : Names) (blockBody : Bool)
  | array (elements : List Element)
  | object (properties : List Property)
  /-- The assignment `target = value`. -/
  | assign (target : Expr) (value : Names)
  /-- The assignment of a value to an array or object pattern. -/
  | assignPat (target : Pat) (value : Names)
  | other (kind : ExprKind) (names : Names)

/-- An element of an array. -/
inductive Element
  | hole
  | item (value : Expr)
  | spread (value : Expr)

/-- A property of an object. -/
inductive Property
  | shorthand (o : Occurrence)
  /-- A shorthand with a default, which only a pattern may hold. -/
  | withDefault (o : Occurrence) (value : Names)
  | keyValue (key : Names) (value : Expr)
  | method (names : Names)
  | spread (value : Expr)

end

instance : Inhabited Expr := ⟨.other .invalid .none⟩

mutual

/-- The identifiers of an expression. -/
def Expr.names : Expr → Names
  | .ident o => .one o
  | .arrow names _ => names
  | .array elements => elementNames elements
  | .object properties => propertyNames properties
  | .assign target value => target.names ++ value
  | .assignPat target value => target.names ++ value
  | .other _ names => names

/-- The identifiers of an array's elements. -/
def elementNames : List Element → Names
  | [] => .none
  | .hole :: es => elementNames es
  | .item e :: es => e.names ++ elementNames es
  | .spread e :: es => e.names ++ elementNames es

/-- The identifiers of an object's properties. -/
def propertyNames : List Property → Names
  | [] => .none
  | .shorthand o :: ps => .one o ++ propertyNames ps
  | .withDefault o value :: ps => .one o ++ value ++ propertyNames ps
  | .keyValue key value :: ps => key ++ value.names ++ propertyNames ps
  | .method names :: ps => names ++ propertyNames ps
  | .spread e :: ps => e.names ++ propertyNames ps

end

/-- The forms of expressions that may be assigned to besides names and patterns. -/
def ExprKind.isTarget : ExprKind → Bool
  | .member | .superMember | .optionalChain | .paren | .asType | .satisfies | .nonNull
  | .typeAssertion | .instantiation | .invalid => true
  | _ => false

/-- `e.isTarget` tells whether the expression `e` may stand left of a compound assignment. -/
def Expr.isTarget : Expr → Bool
  | .ident _ => true
  | .other kind _ => kind.isTarget
  | _ => false

/-- Where an expression is read as a pattern. -/
inductive PatPlace
  /-- A parameter. -/
  | binding
  /-- The whole left side of an assignment. -/
  | target
  /-- A part of the left side of an assignment. -/
  | targetPart
  deriving DecidableEq, Repr, Inhabited

/-- The place of the parts of a pattern. -/
def PatPlace.part : PatPlace → PatPlace
  | .binding => .binding
  | _ => .targetPart

/-- The forms of expressions that may stand as a part of an assignment's left side. -/
def ExprKind.isPart : ExprKind → Bool
  | .member | .superMember | .call | .new | .literal | .function | .classBody | .paren | .template
  | .asType => true
  | _ => false

/-- The elements of an array pattern that count: trailing holes are dropped, and with them the
licence of a last spread. -/
def patElements (es : List Element) : List Element × Bool :=
  let kept := (es.reverse.dropWhile fun e => match e with | .hole => true | _ => false).reverse
  (kept, kept.length == es.length)

mutual

/-- The pattern that an expression spells; `none` where it cannot be one at all.  An expression
that cannot be bound is dropped with its identifiers. -/
def Expr.toPat? (place : PatPlace) : Expr → Option Pat
  | .ident o => some ⟨.ident, .one o⟩
  | .array elements =>
    (elementPats? place.part (patElements elements).2 elements).map (⟨.array, ·⟩)
  | .object properties => (propertyPats? place.part properties).map (⟨.object, ·⟩)
  | .assign target value =>
    if place = .target then some ⟨.expr, target.names ++ value⟩
    else (target.toPat? place).map fun p => ⟨.assign, p.names ++ value⟩
  | .assignPat target value =>
    if place = .target then some ⟨.expr, target.names ++ value⟩
    else some ⟨.assign, target.names ++ value⟩
  | .arrow names _ =>
    if place = .target then some ⟨.expr, names⟩ else some ⟨.invalid, .none⟩
  | .other kind names =>
    if kind = .invalid then some ⟨.invalid, .none⟩
    else if place = .target || (place = .targetPart && kind.isPart) then some ⟨.expr, names⟩
    else some ⟨.invalid, .none⟩

/-- The identifiers of an array pattern's parts.  A spread counts only as the last element, and
only when no hole follows it. -/
def elementPats? (place : PatPlace) (lastMaySpread : Bool) : List Element → Option Names
  | [] => some .none
  | .hole :: es => elementPats? place lastMaySpread es
  | .item e :: es => do
    let p ← e.toPat? place
    let rest ← elementPats? place lastMaySpread es
    some (p.names ++ rest)
  | .spread e :: es =>
    if es.isEmpty && lastMaySpread then (e.toPat? place).map (·.names)
    else elementPats? place lastMaySpread es

/-- The identifiers of an object pattern's parts.  Methods have no place in a pattern. -/
def propertyPats? (place : PatPlace) : List Property → Option Names
  | [] => some .none
  | .shorthand o :: ps => (propertyPats? place ps).map (.one o ++ ·)
  | .withDefault o value :: ps => (propertyPats? place ps).map (.one o ++ value ++ ·)
  | .keyValue key value :: ps => do
    let p ← value.toPat? place
    let rest ← propertyPats? place ps
    some (key ++ p.names ++ rest)
  | .method _ :: _ => none
  | .spread e :: ps => do
    let names ←
      if place = .binding then
        match e with
        | .ident o => some (.one o)
        | _ => some .none
      else (e.toPat? place).map (·.names)
    let rest ← propertyPats? place ps
    some (names ++ rest)

end

/-- `p.isTarget e` tells whether the expression `e`, read as the pattern `p`, may stand left of
`=`. -/
def Pat.isTarget (e : Expr) (p : Pat) : Bool :=
  match p.kind with
  | .array | .object | .ident | .invalid => true
  | .expr => e.isTarget
  | _ => false

end Codemod.TypeScript
