import Codemod.TypeScript.Parser.Patterns

/-!
# Types

## Main definitions

* `typeRule` — a type, conditional or not.
* `typeArguments`, `typeParameters?` — the lists between `<` and `>`.
* `typeMembers` — the members of an interface or object type.
* `returnType` — the type after a parameter list, which may be a predicate.
-/

namespace Codemod.TypeScript

/-! ### Lists between angle brackets -/

/-- Items between commas up to `>`, which is read too. -/
def angleList (item : Parser Names) : Parser Names := do
  let items ← commaList .gt item
  expect .gt
  return .concat items

/-- Arguments for type parameters. -/
def typeArguments (g : Grammar) : Parser Names := do
  if ← at? .shl then relex cutShift
  expect .lt
  angleList g.type

/-- A type parameter with its modifiers, its bound and its default. -/
def typeParameter (g : Grammar) : Parser Names := do
  iterate () fun _ => do
    match ← modifier? ["public", "private", "protected", "readonly", "abstract", "const",
        "override", "in", "out"] false with
    | some _ => return .again ()
    | none => return .done ()
  let name ← anyName
  let bound ← if ← eatWord "extends" then g.type else pure .none
  let default ← if ← eat .assign then g.type else pure .none
  return .one name ++ bound ++ default

/-- Type parameters between angle brackets. -/
def typeParameters (g : Grammar) : Parser Names := do
  expect .lt
  angleList (typeParameter g)

/-- Type parameters, if a list of them is in view. -/
def typeParameters? (g : Grammar) : Parser Names := do
  if ← at? .lt then typeParameters g else return .none

/-! ### Return types -/

/-- The type after a colon or an arrow: a type, or a predicate on a parameter. -/
def returnType (g : Grammar) (mark : Punct) : Parser Names := do
  expect mark
  let next ← peek
  let asserts := (← atWord? "asserts") && next.isReference && !next.newlineBefore
  if asserts then bump
  let next ← peek
  let is := (← atReference?) && next.kind == .word "is" && !next.newlineBefore
  if !asserts && !is then return ← g.type
  let subject ← anyName
  if is then
    bump
    return .one subject ++ (← g.type)
  return .one subject

/-- The return type after a colon, if one is in view. -/
def returnType? (g : Grammar) : Parser Names := do
  if ← at? .colon then returnType g .colon else return .none

/-! ### Members of object types -/

/-- Ends a member of an object type. -/
def memberEnd : Parser Unit := do
  unless ← eat .comma do expectStatementEnd

/-- The parameters, type parameters and return type of a call signature. -/
def signature (g : Grammar) : Parser Names := do
  let params ← typeParameters? g
  expect .lparen
  let args ← signatureParameters g
  let result ← returnType? g
  return params ++ .concat (args.map (·.names)) ++ result

/-- Tells whether an index signature starts with the bracket in view. -/
def atIndexSignature? : Parser Bool := do
  unless ← at? .lbracket do return false
  lookAhead do
    bump
    unless ← atReference? do return false
    bump
    return (← at? .colon) || (← at? .comma)

/-- An index signature, after its modifiers. -/
def indexSignature (g : Grammar) : Parser Names := do
  expect .lbracket
  let name ← anyName
  unless ← eat .comma do expect .colon
  let key ← g.type
  expect .rbracket
  let value ← typeAnnotation g
  memberEnd
  return .one name ++ key ++ value

/-- The name of a member of an object type. -/
def typeMemberName (g : Grammar) : Parser Names := do
  let t ← cur
  match t.kind with
  | .word w =>
    bump
    return .one ⟨w, t.start⟩
  | .string _ | .number | .privateName =>
    bump
    return .none
  | .punct .lbracket => computedName g
  | _ => fail

/-- A getter or setter in an object type. -/
def typeAccessor (g : Grammar) : Parser Names := do
  if ← eatWord "get" then
    let name ← typeMemberName g
    expect .lparen
    expect .rparen
    let ty ← typeAnnotation g
    memberEnd
    return name ++ ty
  expectWord "set"
  let name ← typeMemberName g
  expect .lparen
  match ← signatureParameters g with
  | [] => fail
  | p :: _ =>
    memberEnd
    return name ++ p.names

/-- A property or method of an object type. -/
def typeProperty (g : Grammar) (readonly : Bool) : Parser Names := do
  let name ← typeMemberName g
  let _ ← eat .question
  if (← at? .lparen) || (← at? .lt) then
    if readonly then fail
    let rest ← signature g
    memberEnd
    return name ++ rest
  let ty ← typeAnnotation g
  memberEnd
  return name ++ ty

/-- A member of an object type. -/
def typeMember (g : Grammar) : Parser Names := do
  if (← at? .lparen) || (← at? .lt) then
    let names ← signature g
    memberEnd
    return names
  let next ← peek
  if (← atWord? "new") && (next.kind == .punct .lparen || next.kind == .punct .lt) then
    bump
    let names ← signature g
    memberEnd
    return names
  let readonly := (← modifier? ["readonly"] false).isSome
  if ← atIndexSignature? then return ← indexSignature g
  let accessor ← attempt do
    if readonly then fail
    return some (← typeAccessor g)
  match accessor with
  | some names => return names
  | none => typeProperty g readonly

/-- The members of an interface or object type, with their braces. -/
def typeMembers (g : Grammar) : Parser Names := do
  expect .lbrace
  let names ← namesWhile (do return !(← at? .rbrace)) (typeMember g)
  expect .rbrace
  return names

/-! ### Primary types -/

/-- Words that name types and are no identifiers. -/
def typeKeywords : List String :=
  ["void", "null", "any", "boolean", "bigint", "never", "number", "object", "string", "symbol",
   "unknown", "undefined", "intrinsic"]

/-- A name with the names it selects.  A point without a name is tolerated. -/
def entityName : Parser Names := do
  let first ← anyName
  iterate (Names.one first) fun found => do
    if ← eat .dot then
      unless ← atAnyWord? do return .done found
      return .again (found ++ .one (← anyName))
    return .done found

/-- A named type with its arguments. -/
def typeReference (g : Grammar) : Parser Names := do
  parameterModifier
  let name ← entityName
  if !(← newlineBefore?) && ((← at? .lt) || (← at? .shl)) then
    return name ++ (← typeArguments g)
  return name

/-- The identifiers of the options of an import type: an object of options under `with`. -/
def importTypeOptions (g : Grammar) : Parser Names := do
  expect .lbrace
  expectWord "with"
  expect .colon
  unless ← at? .lbrace do fail
  let e ← bracketed g.assign
  let _ ← eat .comma
  expect .rbrace
  return e.names

/-- The type of a module. -/
def importType (g : Grammar) : Parser Names := do
  expectWord "import"
  expect .lparen
  match ← curKind with
  | .string _ => bump
  | _ => fail
  let options ←
    if ← eat .comma then
      if ← at? .lbrace then importTypeOptions g else pure .none
    else pure .none
  expect .rparen
  let name ← if ← eat .dot then entityName else pure .none
  let args ← if (← at? .lt) || (← at? .shl) then typeArguments g else pure .none
  return options ++ name ++ args

/-- The type of a value. -/
def typeQuery (g : Grammar) : Parser Names := do
  expectWord "typeof"
  let name ← if ← atWord? "import" then importType g else entityName
  if !(← newlineBefore?) && ((← at? .lt) || (← at? .shl)) then
    return name ++ (← typeArguments g)
  return name

/-- Tells whether a mapped type starts with the brace in view. -/
def atMappedType? : Parser Bool :=
  lookAhead do
    bump
    if (← eat .plus) || (← eat .minus) then return ← atWord? "readonly"
    let _ ← eatWord "readonly"
    unless ← eat .lbracket do return false
    unless ← atReference? do return false
    bump
    atWord? "in"

/-- A mapped type. -/
def mappedType (g : Grammar) : Parser Names := do
  expect .lbrace
  if (← eat .plus) || (← eat .minus) then expectWord "readonly"
  else let _ ← eatWord "readonly"
  expect .lbracket
  let name ← anyName
  expectWord "in"
  let domain ← g.type
  let renamed ← if ← eatWord "as" then g.type else pure .none
  expect .rbracket
  if (← eat .plus) || (← eat .minus) then expect .question
  else let _ ← eat .question
  let ty ← typeAnnotation g
  expectStatementEnd
  expect .rbrace
  return .one name ++ domain ++ renamed ++ ty

/-- The label of a tuple element. -/
def tupleLabel : Parser (Option Names) :=
  attempt do
    let _ ← eat .ellipsis
    let name ← anyName
    let _ ← eat .question
    expect .colon
    return some (.one name)

/-- An element of a tuple type. -/
def tupleElement (g : Grammar) : Parser Names := do
  let label := (← tupleLabel).getD .none
  if ← eat .ellipsis then return label ++ (← g.type)
  let ty ← g.type
  let _ ← eat .question
  return label ++ ty

/-- A template whose substitutions are read by a rule, with its opening quote in view; the flag
tells whether malformed escapes are tolerated. -/
def templateWith (anyEscape : Bool) (item : Parser Names) : Parser Names := do
  let first := lexTemplateChunk (← cur).stop
  iterate (Names.none, first) fun (found, last, valid, stop) => do
    unless valid || anyEscape do fail
    match last with
    | .unterminated => fail
    | .close =>
      advanceTo (lex stop)
      return .done found
    | .substitution =>
      advanceTo (lex stop)
      let names ← item
      unless ← at? .rbrace do fail
      return .again (found ++ names, lexTemplateChunk (← cur).stop)

/-- A type that is no array, operator or combination of types. -/
def primaryType (g : Grammar) : Parser Names := do
  match ← curKind with
  | .string _ | .number =>
    bump
    return .none
  | .template => templateWith false g.type
  | .punct .minus =>
    bump
    match ← curKind with
    | .number => bump
    | _ => fail
    return .none
  | .punct .lbrace => if ← atMappedType? then mappedType g else typeMembers g
  | .punct .lbracket =>
    bump
    let items ← commaList .rbracket (tupleElement g)
    expect .rbracket
    return .concat items
  | .punct .lparen =>
    bump
    let ty ← g.type
    expect .rparen
    return ty
  | .word w =>
    if w == "true" || w == "false" then
      bump
      return .none
    if w == "import" then return ← importType g
    if w == "typeof" then return ← typeQuery g
    if w == "this" then
      bump
      if !(← newlineBefore?) && (← eatWord "is") then return ← g.type
      return .none
    let next ← peek
    if w == "asserts" && next.kind == .word "this" then
      bump
      bump
      if ← eatWord "is" then return ← g.type
      return .none
    if typeKeywords.contains w && next.kind != .punct .dot then
      bump
      return .none
    typeReference g
  | _ => fail

/-- A type with its array and index suffixes. -/
def postfixType (g : Grammar) : Parser Names := do
  let first ← primaryType g
  iterate first fun found => do
    if ← newlineBefore? then return .done found
    unless ← eat .lbracket do return .done found
    if ← eat .rbracket then return .again found
    let index ← g.type
    expect .rbracket
    return .again (found ++ index)

/-! ### Compound types -/

/-- Tells whether a parameter in a function type may start here, so that the parenthesis before is
one of a parameter list. -/
def skipParameterStart (g : Grammar) : Parser Bool := do
  parameterModifier
  match ← curKind with
  | .word _ =>
    bump
    return true
  | .punct .lbrace | .punct .lbracket => return (← recover g.pattern).isSome
  | _ => return false

/-- Tells whether a function type starts here. -/
def atFunctionType? (g : Grammar) : Parser Bool := do
  if ← at? .lt then return true
  unless ← at? .lparen do return false
  lookAhead do
    bump
    if (← at? .rparen) || (← at? .ellipsis) then return true
    unless ← skipParameterStart g do return false
    if (← at? .colon) || (← at? .comma) || (← at? .assign) || (← at? .question) then return true
    if ← eat .rparen then return ← at? .arrow
    return false

/-- A function type, after the words of a constructor type. -/
def functionType (g : Grammar) : Parser Names := do
  let params ← typeParameters? g
  expect .lparen
  let args ← signatureParameters g
  let result ← returnType g .arrow
  return params ++ .concat (args.map (·.names)) ++ result

/-- The operators before a type, then the type. -/
def operatorType (g : Grammar) : Parser Names := do
  iterate () fun _ => do
    if (← eatWord "keyof") || (← eatWord "unique") || (← eatWord "readonly") then return .again ()
    return .done ()
  if ← eatWord "infer" then
    let name ← anyName
    let bound ← attempt do
      expectWord "extends"
      let ty ← within (fun c => { c with noConditionalType := true }) (g .plainType)
      if (← read).noConditionalType || !(← at? .question) then return some ty
      return none
    return .one name ++ bound.getD .none
  postfixType g

/-- Types joined by an operator, which may also stand before the first. -/
def joinedTypes (operator : Punct) (item : Parser Names) : Parser Names := do
  let _ ← eat operator
  let first ← item
  iterate first fun found => do
    if ← eat operator then return .again (found ++ (← item))
    return .done found

/-- A type that is not conditional. -/
def plainType (g : Grammar) : Parser Names := do
  if ← atFunctionType? g then return ← functionType g
  if (← atWord? "abstract") && (← peekWord? "new") then
    bump
    bump
    return ← functionType g
  if ← eatWord "new" then return ← functionType g
  joinedTypes .pipe (joinedTypes .amp (operatorType g))

/-- A type. -/
def typeRule (g : Grammar) : Parser Names :=
  within (fun c => { c with noConditionalType := false }) do
    let checked ← plainType g
    if (← newlineBefore?) || !(← eatWord "extends") then return checked
    let bound ← within (fun c => { c with noConditionalType := true }) (plainType g)
    expect .question
    let yes ← g.type
    expect .colon
    let no ← g.type
    return checked ++ bound ++ yes ++ no

end Codemod.TypeScript
