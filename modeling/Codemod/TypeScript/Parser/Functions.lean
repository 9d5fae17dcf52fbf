import Codemod.TypeScript.Parser.Types

/-!
# Functions and classes

## Main definitions

* `block`, `functionBody`, `arrowBody` — statements between braces and the bodies of functions.
* `functionRest` — a function from its type parameters on.
* `classRest` — a class after the word `class`.
* `classMember` — a member of a class.
-/

namespace Codemod.TypeScript

/-! ### Bodies -/

/-- Statements between braces.  A block may also end with the source. -/
def block (g : Grammar) : Parser Names := do
  expect .lbrace
  let names ←
    within (fun c => { c with topLevel := false, colonFollows := false, includeIn := true }) <|
      namesWhile (do return (← curKind) != .punct .rbrace && (← curKind) != .eof)
        (g (.statement true))
  let _ ← eat .rbrace
  return names

/-- The surroundings in the body of a function. -/
def inFunction {α : Type} (isAsync isGenerator : Bool) (p : Parser α) : Parser α :=
  within (fun c => { c with inAsync := isAsync, inGenerator := isGenerator, inStaticBlock := false }) p

/-- The body of a function, which may be missing. -/
def functionBody (g : Grammar) : Parser Names := do
  if ← at? .lbrace then return ← block g
  if ← eatStatementEnd then return .none
  fail

/-- The body of a function written with `=>`; the flag tells whether it is a block. -/
def arrowBody (g : Grammar) (isAsync : Bool) : Parser (Names × Bool) :=
  inFunction isAsync false do
    if ← at? .lbrace then return (← block g, true)
    return (← g.assignNames, false)

/-! ### Functions -/

/-- The parts of a function after its name. -/
structure FunctionRest where
  typeParams : Names
  params : List (Names × Pat)
  result : Names
  body : Names

namespace FunctionRest

/-- The identifiers of all parts. -/
def names (f : FunctionRest) : Names :=
  f.typeParams ++ parameterNames f.params ++ f.result ++ f.body

/-- The identifiers that a getter of an object keeps: its type and body. -/
def getterNames (f : FunctionRest) : Names := f.result ++ f.body

/-- The identifiers that a setter of an object keeps: its parameter, a receiver before it, and its
body. -/
def setterNames (f : FunctionRest) : Names :=
  .concat ((f.params.take 2).map (·.2.names)) ++ f.body

end FunctionRest

/-- A function from its type parameters on. -/
def functionRest (g : Grammar) (isAsync isGenerator : Bool) : Parser FunctionRest :=
  inFunction isAsync isGenerator do
    let typeParams ← typeParameters? g
    expect .lparen
    let params ← parameters g
    expect .rparen
    let result ← returnType? g
    let body ← functionBody g
    return ⟨typeParams, params, result, body⟩

/-- A function declaration after `async`, its name given or optional. -/
def functionDeclaration (g : Grammar) (isAsync nameOptional : Bool) : Parser Names := do
  expectWord "function"
  let isGenerator ← eat .star
  let name ← if nameOptional then optionalBindingName false else pure (.one (← bindingName false))
  return name ++ (← functionRest g isAsync isGenerator).names

/-! ### Decorators and heritage -/

/-- Arguments of a call. -/
def arguments (g : Grammar) : Parser Names := do
  expect .lparen
  let args ← commaList .rparen do
    let _ ← eat .ellipsis
    bracketed g.assignNames
  expect .rparen
  return .concat args

/-- A decorator. -/
def decoratorRule (g : Grammar) : Parser Names := do
  expect .at
  let e ←
    if ← eat .lparen then do
      let e ← bracketed g.expr
      expect .rparen
      pure e
    else do
      let name ← identifier false
      g (.suffixes (.ident name) false true)
  let typeArgs ← if ← at? .lt then typeArguments g else pure .none
  if ← at? .lparen then return e.names ++ typeArgs ++ (← arguments g)
  return e.names ++ typeArgs

/-- A type that a class implements or an interface extends. -/
def heritageElement (g : Grammar) : Parser Names := do
  let name ← anyName
  let e ← g (.suffixes (.ident name) true true)
  if ← at? .lt then return e.names ++ (← typeArguments g)
  return e.names

/-- The types that a class implements or an interface extends. -/
def heritage (g : Grammar) : Parser Names :=
  iterate Names.none fun found => do
    let ended := do
      return (← at? .lbrace) || (← atWord? "implements") || (← atWord? "extends")
    if ← ended then return .done found
    let names ← heritageElement g
    if ← eat .comma then return .again (found ++ names)
    if ← ended then return .done (found ++ names)
    fail

/-- The class that a class extends, with its type arguments. -/
def superClass (g : Grammar) : Parser Names := do
  let e ← g .leftHand
  if ← at? .lt then return e.names ++ (← typeArguments g)
  return e.names

/-! ### Members of classes -/

/-- Tells whether a parameter list follows the name of a member. -/
def atMethod? : Parser Bool := do return (← at? .lparen) || (← at? .lt)

/-- Tells whether the name in view's past belongs to a field.  A line break ends a field only if
`asi`. -/
def atField? (asi : Bool) : Parser Bool := do
  if (← at? .bang) || (← at? .colon) || (← at? .assign) || (← at? .rbrace) then return true
  if asi then atStatementEnd? else at? .semi

/-- The rest of a method after its name. -/
def method (g : Grammar) (isAsync isGenerator : Bool) : Parser Names := do
  return (← functionRest g isAsync isGenerator).names

/-- The rest of a field after its name and question mark.  A field may end without a semicolon. -/
def field (g : Grammar) (key : PropertyName) (optional : Bool) : Parser Names := do
  if key.isConstructor then fail
  unless optional do let _ ← eat .bang
  let ty ← typeAnnotation g
  let value ← if ← eat .assign then bracketed g.assignNames else pure .none
  let _ ← eatStatementEnd
  return key.names ++ ty ++ value

/-- The rest of a constructor after its name.  Type parameters and a result are tolerated and do
not count. -/
def constructorRest (g : Grammar) : Parser Names :=
  inFunction false false do
    let _ ← typeParameters? g
    expect .lparen
    let params ← constructorParameters g
    expect .rparen
    let _ ← typeAnnotation g
    return params ++ (← functionBody g)

/-- The name of a member of a class, which may be private. -/
def memberName (g : Grammar) : Parser PropertyName := do
  if (← curKind) == .privateName then
    bump
    return ⟨.none, none, false⟩
  propertyName g

/-- A member that is named by a word which could also be its modifier, such as a method `static`;
`none` if the word was a modifier. -/
def memberNamed? (g : Grammar) (word : Occurrence) (asi : Bool) : Parser (Option Names) := do
  let key : PropertyName := ⟨.one word, some word, false⟩
  if ← atMethod? then return some (key.names ++ (← method g false false))
  if (← atField? asi) || (← at? .question) then
    let optional ← eat .question
    if ← atMethod? then return some (key.names ++ (← method g false false))
    return some (← field g key optional)
  return none

/-- Reads a word of a class member if it is in view. -/
def memberWord? (w : String) : Parser (Option Occurrence) := do
  let t ← cur
  if t.kind == .word w then
    bump
    return some ⟨w, t.start⟩
  return none

/-- Modifiers of a member up to its name: whether `abstract` or `override` is among them, the word
`readonly`, and whether `static` is. -/
structure MemberModifiers where
  abstractOrOverride : Bool := false
  readonly? : Option Occurrence := none
  isStatic : Bool := false

/-- Reads the modifiers of a member. -/
def memberModifiers (isStatic : Bool) : Parser MemberModifiers :=
  iterate ({ isStatic } : MemberModifiers) fun found => do
    let t ← cur
    match ← modifier? ["abstract", "readonly", "override", "static"] true with
    | none => return .done found
    | some "readonly" => return .again { found with readonly? := some ⟨"readonly", t.start⟩ }
    | some "static" => return .again { found with isStatic := true }
    | some _ => return .again { found with abstractOrOverride := true }

/-- A static block. -/
def staticBlock (g : Grammar) : Parser Names :=
  within (fun c => { c with inStaticBlock := true, inAsync := false, inGenerator := false }) (block g)

/-- A member of a class from its name on. -/
def memberFromName (g : Grammar) (mods : MemberModifiers) : Parser Names := do
  if ← eat .star then
    let key ← memberName g
    return key.names ++ (← method g false true)
  let t ← cur
  let key ←
    match mods.readonly? with
    | some word =>
      if t.kind == .punct .bang || t.kind == .punct .colon then pure ⟨.one word, some word, false⟩
      else memberName g
    | none => memberName g
  let optional ← eat .question
  if ← atMethod? then
    if mods.readonly?.isSome then fail
    if key.isConstructor then return key.names ++ (← constructorRest g)
    return key.names ++ (← method g false false)
  let word := (key.ident?.map (·.name)).getD ""
  let generatorNext := (← newlineBefore?) && (← at? .star)
  let accessor := (word == "get" || word == "set") && !(← atField? false) && !generatorNext
  if !accessor && (← atField? true) then return ← field g key optional
  if word == "async" && !(← newlineBefore?) then
    let _ ← modifier? ["override"] false
    let isGenerator ← eat .star
    let key ← memberName g
    if key.isConstructor then fail
    let _ ← eat .question
    return key.names ++ (← method g true isGenerator)
  if accessor then
    let key ← memberName g
    let _ ← eat .question
    return key.names ++ (← method g false false)
  fail

/-- A member of a class. -/
def classMember (g : Grammar) : Parser Names := do
  let marks ← decorators g
  let declared ← memberWord? "declare"
  let access ← modifier? ["public", "protected", "private", "in", "out"] false
  let declared ← if declared.isSome then pure declared else memberWord? "declare"
  if let some word := declared then
    if let some names ← memberNamed? g word true then return marks ++ names
  let static? ← memberWord? "static"
  if let some word := static? then
    unless ← at? .lbrace do
      if let some names ← memberNamed? g word false then return marks ++ names
  if static?.isSome && (← at? .lbrace) then return marks ++ (← staticBlock g)
  let mods ← memberModifiers static?.isSome
  if mods.isStatic && (← at? .lbrace) then return marks ++ (← staticBlock g)
  if (← atWord? "static") && (← peekAt? .lbrace) then
    bump
    return marks ++ (← staticBlock g)
  if let some word ← memberWord? "accessor" then
    if let some names ← memberNamed? g word true then return marks ++ names
  if !mods.abstractOrOverride && access.isNone then
    if ← atIndexSignature? then return marks ++ (← indexSignature g)
  return marks ++ (← memberFromName g mods)

/-- The body of a class. -/
def classBody (g : Grammar) : Parser Names := do
  expect .lbrace
  let names ← namesWhile (do return !(← at? .rbrace)) do
    if ← eat .semi then return .none
    within (fun c => { c with colonFollows := false, includeIn := true }) (classMember g)
  expect .rbrace
  return names

/-- A class after the word `class`.  Clauses given twice are tolerated: the identifiers of a second
one do not count. -/
def classRest (g : Grammar) (nameRequired : Bool) : Parser Names := do
  let name ← if nameRequired then pure (.one (← bindingName true)) else optionalBindingName true
  let typeParams ← typeParameters? g
  let parent? ←
    if ← eatWord "extends" then do
      let parent ← superClass g
      if ← eat .comma then let _ ← heritage g
      pure (some parent)
    else pure none
  if ← eatWord "extends" then let _ ← superClass g
  let interfaces ← if ← eatWord "implements" then heritage g else pure .none
  if ← eatWord "implements" then let _ ← heritage g
  let late ← if ← eatWord "extends" then superClass g else pure .none
  let parent := parent?.getD late
  return name ++ typeParams ++ parent ++ interfaces ++ (← classBody g)

end Codemod.TypeScript
