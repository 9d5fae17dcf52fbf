import Codemod.TypeScript.Parser.Basic

/-!
# Patterns and parameters

## Main definitions

* `propertyName` — the name of a property or member.
* `modifier?` — a word such as `readonly` before the name it modifies.
* `bindingPattern` — a name, an array pattern or an object pattern.
* `parameters`, `constructorParameters`, `signatureParameters` — parameter lists.
-/

namespace Codemod.TypeScript

/-! ### Property names -/

/-- The name of a property. -/
structure PropertyName where
  /-- The identifiers in it. -/
  names : Names
  /-- The identifier that it is, if it is one. -/
  ident? : Option Occurrence
  /-- Whether it is spelt `constructor`, as a word or a string. -/
  isConstructor : Bool

/-- The identifiers of an expression in brackets.  Commas are tolerated in it. -/
def computedName (g : Grammar) : Parser Names := do
  expect .lbracket
  let e ← bracketed g.expr
  expect .rbracket
  return e.names

/-- Reads the name of a property. -/
def propertyName (g : Grammar) : Parser PropertyName := do
  let t ← cur
  match t.kind with
  | .word w =>
    bump
    return ⟨.one ⟨w, t.start⟩, some ⟨w, t.start⟩, w == "constructor"⟩
  | .string raw =>
    bump
    return ⟨.none, none, raw == "constructor"⟩
  | .number =>
    bump
    return ⟨.none, none, false⟩
  | .punct .lbracket => return ⟨← computedName g, none, false⟩
  | _ => fail

/-! ### Modifiers -/

/-- `t.followsModifier` tells whether a modifier may stand before the token `t`. -/
def Token.followsModifier (t : Token) : Bool :=
  !t.newlineBefore &&
    match t.kind with
    | .punct .lbracket | .punct .lbrace | .punct .star | .punct .ellipsis => true
    | .privateName | .word _ | .string _ | .number => true
    | _ => false

/-- Reads one of some words as a modifier, if one is in view and something to modify follows.
A static block is not something to modify. -/
def modifier? (allowed : List String) (stopAtStaticBlock : Bool) : Parser (Option String) := do
  match ← curKind with
  | .word w =>
    let next ← peek
    if !allowed.contains w then return none
    if stopAtStaticBlock && w == "static" && next.kind == .punct .lbrace then return none
    if next.followsModifier then
      bump
      return some w
    return none
  | _ => return none

/-- Reads the modifier of a parameter that is a property. -/
def parameterModifier : Parser Unit := do
  match ← curKind with
  | .word w =>
    if ["public", "protected", "private", "readonly"].contains w then
      let next ← peek
      if next.isWord || next.kind == .punct .lbrace || next.kind == .punct .lbracket then
        let _ ← modifier? ["public", "protected", "private", "readonly"] false
  | _ => return ()

/-! ### Patterns -/

/-- A part of a pattern with its default. -/
def bindingElement (g : Grammar) : Parser Names := do
  let p ← g.pattern
  if ← eat .assign then return p.names ++ (← bracketed g.assignNames)
  return p.names

/-- An array pattern. -/
def arrayPattern (g : Grammar) : Parser Names := do
  expect .lbracket
  let names ← iterate Names.none fun found => do
    if ← at? .rbracket then return .done found
    if ← eat .comma then return .again found
    let part ←
      if ← eat .ellipsis then do
        let p ← g.pattern
        pure p.names
      else bindingElement g
    unless ← at? .rbracket do expect .comma
    return .again (found ++ part)
  expect .rbracket
  if (← read).inDeclare then let _ ← eat .question
  return names

/-- A property of an object pattern; the flag tells whether it is a rest that binds no name. -/
def patternProperty (g : Grammar) : Parser (Names × Bool) := do
  if ← eat .ellipsis then
    let p ← g.pattern
    return (p.names, p.kind != .ident)
  let key ← propertyName g
  if ← eat .colon then return (key.names ++ (← bindingElement g), false)
  if key.ident?.isNone then fail
  if ← eat .assign then return (key.names ++ (← bracketed g.assignNames), false)
  return (key.names, false)

/-- An object pattern.  A rest at its end binds a name. -/
def objectPattern (g : Grammar) : Parser Names := do
  expect .lbrace
  let properties ← commaList .rbrace (patternProperty g)
  expect .rbrace
  match properties.getLast? with
  | some (_, true) => fail
  | _ => pure ()
  if (← read).inDeclare then let _ ← eat .question
  return .concat (properties.map (·.1))

/-- A name, an array pattern or an object pattern. -/
def bindingPatternWith (g : Grammar) (refuseLet : Bool) : Parser Pat := do
  match ← curKind with
  | .word _ => return ⟨.ident, .one (← bindingName refuseLet)⟩
  | .punct .lbracket => return ⟨.array, ← arrayPattern g⟩
  | .punct .lbrace => return ⟨.object, ← objectPattern g⟩
  | _ => fail

/-- A pattern that binds. -/
def bindingPattern (g : Grammar) : Parser Pat := bindingPatternWith g false

/-! ### Parameters -/

/-- The type after a colon, if one is in view. -/
def typeAnnotation (g : Grammar) : Parser Names := do
  if ← eat .colon then g.type else return .none

/-- Decorators, as many as are in view. -/
def decorators (g : Grammar) : Parser Names := namesWhile (at? .at) (g .decorator)

/-- A parameter with its type and default. -/
def parameter (g : Grammar) : Parser Pat := do
  parameterModifier
  let p ← g.pattern
  let _ ← eat .question
  let ty ← typeAnnotation g
  if ← eat .assign then
    let value ← bracketed g.assignNames
    return ⟨.assign, p.names ++ ty ++ value⟩
  return ⟨p.kind, p.names ++ ty⟩

/-- A parameter that takes the remaining arguments, after its dots. -/
def restParameter (g : Grammar) : Parser Pat := do
  let p ← g.pattern
  let value ← if ← eat .assign then bracketed g.assignNames else pure .none
  let ty ← typeAnnotation g
  let _ ← eat .question
  return ⟨.rest, p.names ++ value ++ ty⟩

/-- Parameters up to the closing parenthesis, each with the identifiers of its decorators. -/
def parameters (g : Grammar) : Parser (List (Names × Pat)) :=
  commaList .rparen do
    let marks ← decorators g
    let p ← if ← eat .ellipsis then restParameter g else parameter g
    return (marks, p)

/-- The identifiers of parameters. -/
def parameterNames (ps : List (Names × Pat)) : Names :=
  .concat (ps.map fun p => p.1 ++ p.2.names)

/-- A parameter of a constructor, which may declare a property: then it is a name. -/
def constructorParameter (g : Grammar) : Parser Names := do
  let marks ← decorators g
  if ← eat .ellipsis then
    let p ← g.pattern
    return marks ++ p.names ++ (← typeAnnotation g)
  let access ← modifier? ["public", "protected", "private", "in", "out"] false
  let override ← modifier? ["override"] false
  let readonly ← modifier? ["readonly"] false
  let p ← parameter g
  let declares := access.isSome || override.isSome || readonly.isSome
  if declares && p.kind != .ident && p.kind != .assign then fail
  return marks ++ p.names

/-- The parameters of a constructor. -/
def constructorParameters (g : Grammar) : Parser Names := do
  return .concat (← commaList .rparen (constructorParameter g))

/-- The parameters of a signature, with the closing parenthesis.  They have no defaults, and their
decorators do not count. -/
def signatureParameters (g : Grammar) : Parser (List Pat) := do
  let ps ← parameters g
  if ps.any fun p => p.2.kind == .assign then fail
  expect .rparen
  return ps.map (·.2)

end Codemod.TypeScript
