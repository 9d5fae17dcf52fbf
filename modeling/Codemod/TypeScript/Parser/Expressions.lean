import Codemod.TypeScript.Parser.Functions
import Codemod.TypeScript.Parser.Jsx

/-!
# Expressions

## Main definitions

* `assignRule` — an expression without commas.
* `operatorsRule`, `unaryRule` — binary and unary operators.
* `leftHandRule`, `memberRule`, `suffixesRule` — calls, member accesses and `new`.
* `parenthesized` — what a parenthesis opens: an expression or the parameters of a function.
* `primary` — literals, names, functions, classes, arrays and objects.
-/

namespace Codemod.TypeScript

/-! ### Objects and arrays -/

/-- An element of an array. -/
def arrayElement (g : Grammar) : Parser Element := do
  if ← eat .ellipsis then return .spread (← bracketed g.assign)
  return .item (← bracketed g.assign)

/-- An array. -/
def arrayLiteral (g : Grammar) : Parser Expr := do
  expect .lbracket
  let elements ← iterate ([] : List Element) fun found => do
    if ← at? .rbracket then return .done found.reverse
    if ← eat .comma then return .again (.hole :: found)
    let e ← arrayElement g
    unless ← at? .rbracket do expect .comma
    return .again (e :: found)
  expect .rbracket
  return .array elements

/-- A getter, setter or async method of an object, after the word that tells which. -/
def accessorProperty (g : Grammar) (word : String) : Parser Property := do
  let isGenerator ← if word == "async" then eat .star else pure false
  let key ← propertyName g
  let f ← functionRest g (word == "async") isGenerator
  match word with
  | "get" => return .method (key.names ++ f.getterNames)
  | "set" => return .method (key.names ++ f.setterNames)
  | _ => return .method (key.names ++ f.names)

/-- A property of an object. -/
def objectProperty (g : Grammar) : Parser Property := do
  if ← eat .ellipsis then return .spread (← g.assign)
  if ← eat .star then
    let key ← propertyName g
    return .method (key.names ++ (← functionRest g false true).names)
  parameterModifier
  let key ← propertyName g
  if ← eat .colon then return .keyValue key.names (← g.assign)
  if ← atMethod? then return .method (key.names ++ (← functionRest g false false).names)
  match key.ident? with
  | none => fail
  | some word =>
    let _ ← eat .question
    if ← eat .assign then return .withDefault word (← g.assignNames)
    if (← at? .comma) || (← at? .rbrace) then return .shorthand word
    if ["get", "set", "async"].contains word.name then accessorProperty g word.name else fail

/-- An object. -/
def objectLiteral (g : Grammar) : Parser Expr := do
  expect .lbrace
  let properties ← bracketed (commaList .rbrace (objectProperty g))
  expect .rbrace
  return .object properties

/-! ### Parentheses and arrow functions -/

/-- What stands in a parenthesis: an expression, or a parameter with its type. -/
inductive ParenItem
  | expr (e : Expr)
  | spread (e : Expr)
  | pat (p : Pat)

/-- The pattern of an expression, where it must be one. -/
def patternOf (place : PatPlace) (e : Expr) : Parser Pat :=
  match e.toPat? place with
  | some p => return p
  | none => fail

/-- The identifiers of the parameters that the items of a parenthesis are.  Only the last one may
take the remaining arguments. -/
def itemParameters : List ParenItem → Parser Names
  | [] => return .none
  | .spread e :: [] => do return (← patternOf .binding e).names
  | .spread _ :: items => itemParameters items
  | .pat p :: items => do
    let rest ← itemParameters items
    if p.kind == .rest && !items.isEmpty then return rest
    return p.names ++ rest
  | .expr e :: items => do
    let p ← patternOf .binding e
    return p.names ++ (← itemParameters items)

/-- The identifiers of the expressions that the items of a parenthesis are. -/
def itemArguments : List ParenItem → Parser Names
  | [] => return .none
  | .expr e :: items => do return e.names ++ (← itemArguments items)
  | .spread e :: items => do return e.names ++ (← itemArguments items)
  | .pat _ :: _ => fail

/-- The branches of a conditional, after its question mark. -/
def conditionalBranches (g : Grammar) : Parser Names := do
  let yes ←
    within (fun c => { c with inConditional := true, colonFollows := true, includeIn := true })
      g.assignNames
  expect .colon
  let no ← within (fun c => { c with inConditional := true, colonFollows := false }) g.assignNames
  return yes ++ no

/-- Completes an assignment whose left side has been read. -/
def finishAssign (g : Grammar) (left : Expr) : Parser Expr := do
  match ← curKind with
  | .punct .assign =>
    let p ← patternOf .target left
    unless p.isTarget left do fail
    bump
    let value ← g.assignNames
    if p.kind == .array || p.kind == .object then return .assignPat p value
    return .assign left value
  | .punct .assignOp | .punct .slashAssign =>
    unless left.isTarget do fail
    bump
    return .other .other (left.names ++ (← g.assignNames))
  | _ => return left

/-- `isBinaryPunct kind` tells whether a token of `kind` is a binary operator other than a word. -/
def isBinaryPunct : TokenKind → Bool
  | .punct p =>
    [Punct.lt, .gt, .order, .shl, .shr, .equality, .plus, .minus, .star, .slash, .percent,
      .starStar, .amp, .pipe, .caret, .ampAmp, .pipePipe, .nullish].contains p
  | _ => false

/-- Operands joined by binary operators, or a function written with `=>`.  A missing first operand
is tolerated where an operator follows. -/
def binary (g : Grammar) : Parser Expr := do
  let left ←
    match ← recover g.unary with
    | some e => pure e
    | none =>
      let kind ← curKind
      if kind == .word "in" || kind == .word "instanceof" || isBinaryPunct kind then
        pure (.other .invalid .none)
      else fail
  match left with
  | .arrow _ _ => return left
  | _ => g (.operators left 0)

/-- The annotation of an item in a parenthesis: its question mark, its type and its default. -/
def annotated (g : Grammar) (isSpread : Bool) (e : Expr) : Parser ParenItem := do
  let p ← patternOf .binding e
  let ty ← typeAnnotation g
  let ty := if p.kind == .invalid || p.kind == .assign then .none else ty
  let p : Pat := if isSpread then ⟨.rest, p.names ++ ty⟩ else ⟨p.kind, p.names ++ ty⟩
  if ← eat .assign then return .pat ⟨.assign, p.names ++ (← g.assignNames)⟩
  return .pat p

/-- An item of a parenthesis that is a name or starts with one, up to its annotation.  A question
mark after it may make it optional or conditional. -/
def parenItem (g : Grammar) : Parser ParenItem := do
  let t ← cur
  modify fun s => { s with arrowStart := some t.start }
  parameterModifier
  let spreadName := (← at? .ellipsis) && (← peek).isReference
  let nameFirst := (← atReference?) || spreadName
  let isSpread ← eat .ellipsis
  let e ←
    if nameFirst then do
      let e ← binary g
      if isSpread then pure e else
        match ← curKind with
        | .punct .assign | .punct .assignOp | .punct .slashAssign => finishAssign g e
        | _ => pure e
    else bracketed g.assign
  let item := if isSpread then ParenItem.spread e else .expr e
  if ← at? .question then
    let next := (← peek).kind
    if [.punct .comma, .punct .assign, .punct .rparen, .punct .colon].contains next then
      match e with
      | .ident _ =>
        bump
        annotated g isSpread e
      | _ => fail
    else if isSpread then return item
    else
      bump
      return .expr (.other .conditional (e.names ++ (← conditionalBranches g)))
  else if ← at? .colon then annotated g isSpread e
  else return item

/-- The items of a parenthesis and the parenthesis that closes it.  A function of one name may
stand among them. -/
def parenItems (g : Grammar) : Parser (List ParenItem) := do
  let items ← iterate ([] : List ParenItem) fun found => do
    if ← at? .rparen then return .done found.reverse
    let item ← parenItem g
    let found := item :: found
    let isName : Bool :=
      match item with
      | .expr (.ident _) | .spread (.ident _) => true
      | .pat p => p.kind == .ident
      | _ => false
    let found ←
      if ← eat .arrow then
        if isName then do
          let params ← itemParameters found.reverse
          let (body, blockBody) ← arrowBody g false
          pure (.expr (.arrow (params ++ body) blockBody) :: found)
        else pure found
      else pure found
    unless ← at? .rparen do expect .comma
    return .again found
  expect .rparen
  return items

/-- The rest of an arrow function after its arrow: the identifiers of its parameters and body. -/
def arrowRest (g : Grammar) (isAsync : Bool) (items : List ParenItem) (result : Names) :
    Parser Expr := do
  let params ← itemParameters items
  let (body, blockBody) ← arrowBody g isAsync
  return .arrow (params ++ result ++ body) blockBody

/-- What a parenthesis opens: an expression, the parameters of a function, or the arguments of a
call of `async`. -/
def parenthesized (g : Grammar) (canBeArrow : Bool) (async? : Option Occurrence) : Parser Expr := do
  let isAsync := async?.isSome
  expect .lparen
  let items ← bracketed (parenItems g)
  let hasPattern := items.any fun i => match i with | .pat _ => true | _ => false
  let ctx ← read
  -- In a branch of a conditional a colon may start the function's result or the other branch.
  if ctx.inConditional && (← at? .colon) then
    let arrow? ← attempt do
      let result ← returnType g .colon
      expect .arrow
      let e ← arrowRest g isAsync items result
      if ctx.colonFollows && !(← at? .colon) then fail
      return some e
    if let some e := arrow? then return e
  let result? ←
    if !ctx.colonFollows && (← at? .colon) then
      attempt do
        let result ← returnType g .colon
        unless ← at? .arrow do fail
        return some result
    else pure none
  if hasPattern || result?.isSome || (← at? .arrow) then
    if (← newlineBefore?) || !canBeArrow then fail
    expect .arrow
    let e ← arrowRest g isAsync items (result?.getD .none)
    match e with
    | .arrow _ true => if isBinaryPunct (← curKind) then g (.operators e 0) else return e
    | _ => return e
  else
    let names ← itemArguments items
    match async? with
    | some word => return .other .call (.one word ++ names)
    | none =>
      if items.isEmpty || items.any (fun i => match i with | .spread _ => true | _ => false) then
        fail
      return .other .paren names

/-- An async arrow function from its type parameters on. -/
def genericAsyncArrow? (g : Grammar) : Parser (Option Expr) := do
  let head? ← attempt do
    let typeParams ← typeParameters g
    expect .lparen
    let params ← parameters g
    expect .rparen
    let result ← returnType? g
    expect .arrow
    return some (typeParams ++ .concat (params.map (·.2.names)) ++ result)
  match head? with
  | none => return none
  | some head =>
    let (body, blockBody) ← arrowBody g true
    return some (.arrow (head ++ body) blockBody)

/-! ### Primary expressions -/

/-- What the word `async` starts, if it is more than a name. -/
def asyncStart? (g : Grammar) (canBeArrow : Bool) : Parser (Option Expr) := do
  let t ← cur
  let next ← peek
  if next.kind == .word "function" && !next.newlineBefore then
    bump
    return some (.other .function (← functionDeclaration g true true))
  if canBeArrow && next.kind == .punct .lt then
    let arrow? ← attempt do
      bump
      genericAsyncArrow? g
    if arrow?.isSome then return arrow?
  if canBeArrow && next.kind == .punct .lparen && !next.newlineBefore then
    bump
    return some (← parenthesized g canBeArrow (some ⟨"async", t.start⟩))
  return none

/-- A name, or a function of one parameter that the name starts. -/
def nameOrArrow (g : Grammar) (canBeArrow : Bool) : Parser Expr := do
  let name ← identifier (!(← read).inGenerator)
  if canBeArrow && name.name == "async" && !(← newlineBefore?) && (← atReference?) then
    let param ← bindingName false
    if ← newlineBefore? then fail
    expect .arrow
    let (body, blockBody) ← arrowBody g true
    return .arrow (.one param ++ body) blockBody
  if canBeArrow && !(← newlineBefore?) && (← eat .arrow) then
    let (body, blockBody) ← arrowBody g false
    return .arrow (.one name ++ body) blockBody
  return .ident name

/-- An expression without operators around it. -/
def primary (g : Grammar) : Parser Expr := do
  let t ← cur
  let canBeArrow := (← get).arrowStart == some t.start
  match t.kind with
  | .number | .string _ =>
    bump
    return .other .literal .none
  | .template => return .other .template (← bracketed (templateWith false g.exprNames))
  | .punct .slash | .punct .slashAssign =>
    relex relexRegex
    if (← curKind) == .error then fail
    bump
    return .other .literal .none
  | .punct .lbracket => arrayLiteral g
  | .punct .lbrace => objectLiteral g
  | .punct .lparen => parenthesized g canBeArrow none
  | .privateName =>
    bump
    return .other .other .none
  | .punct .at =>
    let marks ← decorators g
    if ← eatWord "class" then return .other .classBody (marks ++ (← classRest g false))
    if ← atReference? then nameOrArrow g false else fail
  | .word w =>
    match w with
    | "this" =>
      bump
      return .other .other .none
    | "null" | "true" | "false" =>
      bump
      return .other .literal .none
    | "function" => return .other .function (← functionDeclaration g false true)
    | "class" =>
      bump
      return .other .classBody (← classRest g false)
    | "async" =>
      match ← asyncStart? g canBeArrow with
      | some e => return e
      | none => nameOrArrow g canBeArrow
    | _ => if w == "let" || !isReserved w then nameOrArrow g canBeArrow else fail
  | _ => fail

/-! ### Suffixes -/

/-- What an access or call is applied to. -/
inductive Callee
  | super
  | import
  | expr (e : Expr)

/-- The identifiers of what an access or call is applied to. -/
def Callee.names : Callee → Names
  | .expr e => e.names
  | _ => .none

/-- Words that cannot start an expression. -/
def nonStarters : List String :=
  ["break", "case", "catch", "continue", "debugger", "default", "do", "else", "export", "extends",
   "finally", "for", "if", "in", "instanceof", "return", "switch", "try", "var", "const", "while",
   "with", "enum"]

/-- `startsExpr kind` tells whether an expression may start with a token of `kind`. -/
def startsExpr : TokenKind → Bool
  | .word w => !nonStarters.contains w
  | .privateName | .number | .string _ | .template => true
  | .punct p =>
    [Punct.lparen, .lbrace, .lbracket, .bang, .tilde, .plus, .minus, .plusPlus, .minusMinus, .at,
      .lt, .slash, .slashAssign].contains p
  | _ => false

/-- Type arguments that stand for themselves, without a call. -/
def instantiation? (g : Grammar) : Parser (Option Names) :=
  attempt do
    let args ← typeArguments g
    let t ← cur
    match t.kind with
    | .punct .lt | .punct .gt | .punct .plus | .punct .minus | .punct .lparen | .template =>
      return none
    | kind =>
      if t.newlineBefore || isBinaryPunct kind || !startsExpr kind then return some args
      return none

/-- Type arguments with the call, template or end that must follow them; the flag tells whether
more may follow. -/
def genericSuffix? (g : Grammar) (noCall : Bool) (e : Expr) : Parser (Option (Expr × Bool)) :=
  attempt do
    match e with
    | .ident ⟨"async", _⟩ =>
      if !noCall && !(← newlineBefore?) then
        if let some arrow ← genericAsyncArrow? g then return some (arrow, true)
    | _ => pure ()
    let args ← typeArguments g
    if !noCall && (← at? .lparen) then
      return some (.other .call (e.names ++ args ++ (← arguments g)), true)
    if (← curKind) == .template then
      let parts ← bracketed (templateWith true g.exprNames)
      return some (.other .other (e.names ++ args ++ parts), true)
    if (← at? .assign) || (← atWord? "as") || (← atWord? "satisfies") then
      return some (.other .instantiation (e.names ++ args), false)
    fail

/-- The name after a point, which may be private. -/
def memberProperty : Parser Names := do
  if (← curKind) == .privateName then
    bump
    return .none
  return .one (← anyName)

/-- The form of a member access. -/
def memberKind (callee : Callee) (optional : Bool) : ExprKind :=
  if optional then .optionalChain
  else
    match callee with
    | .super => .superMember
    | _ => .member

/-- One access, call or template after an expression, or the end of them. -/
def suffix (g : Grammar) (noCall noBrackets : Bool) (callee : Callee) :
    Parser (Loop Callee Expr) := do
  if !(← newlineBefore?) && (← at? .bang) then
    bump
    match callee with
    | .expr e => return .again (.expr (.other .nonNull e.names))
    | _ => fail
  if (← at? .lt) || (← at? .shl) then
    if let .expr e := callee then
      match ← genericSuffix? g noCall e with
      | some (e, true) => return .again (.expr e)
      | some (e, false) => return .done e
      | none => pure ()
  let typeArgs? ← if ← at? .lt then instantiation? g else pure none
  let optional ← eat .questionDot
  if !noBrackets then
    if ← eat .lbracket then
      let index ← bracketed g.exprNames
      expect .rbracket
      return .again (.expr (.other (memberKind callee optional) (callee.names ++ index)))
  if optional && (← at? .lt) then
    let typeArgs ← typeArguments g
    let args ← within (fun c => { c with colonFollows := false }) (arguments g)
    return .again (.expr (.other .optionalChain (callee.names ++ typeArgs ++ args)))
  if (← at? .lparen) && (optional || !noCall) then
    let args ← within (fun c => { c with colonFollows := false }) (arguments g)
    return .again (.expr (.other (if optional then .optionalChain else .call) (callee.names ++ args)))
  if optional || (← eat .dot) then
    if (← curKind) == .template then
      let parts ← bracketed (templateWith true g.exprNames)
      return .again (.expr (.other .other (callee.names ++ parts)))
    let name ← memberProperty
    return .again (.expr (.other (memberKind callee optional) (callee.names ++ name)))
  match callee with
  | .expr e =>
    let e :=
      match typeArgs? with
      | some args => .other .instantiation (e.names ++ args)
      | none => e
    if (← curKind) == .template then
      let parts ← bracketed (templateWith true g.exprNames)
      return .again (.expr (.other .other (e.names ++ parts)))
    return .done e
  | _ => fail

/-- All accesses and calls after an expression. -/
def suffixesOf (g : Grammar) (noCall noBrackets : Bool) (callee : Callee) : Parser Expr :=
  iterate callee (suffix g noCall noBrackets)

/-- The accesses and calls after an expression. -/
def suffixesRule (g : Grammar) (base : Expr) (noCall noBrackets : Bool) : Parser Expr :=
  suffixesOf g noCall noBrackets (.expr base)

/-- What follows the word `import` in an expression. -/
def importRest (g : Grammar) (noCall : Bool) : Parser Expr := do
  if ← eat .dot then
    match (← anyName).name with
    | "meta" => suffixesOf g noCall false (.expr (.other .other .none))
    | "defer" | "source" => suffixesOf g noCall false .import
    | _ => fail
  else suffixesOf g noCall false .import

/-- A `new` expression, after the word. -/
def newRest (g : Grammar) (afterNew : Bool) : Parser Expr := do
  if ← eat .dot then
    expectWord "target"
    return ← suffixesOf g true false (.expr (.other .other .none))
  let callee ← g (.member true)
  match callee with
  | .arrow _ _ => return callee
  | .other .optionalChain _ => fail
  | _ => pure ()
  let typeArgs ←
    if (← at? .lt) || (← at? .shl) then
      attempt do
        let args ← typeArguments g
        unless ← at? .lparen do fail
        return some args
    else pure none
  let names := callee.names ++ typeArgs.getD .none
  if ← at? .lparen then
    let args ← within (fun c => { c with colonFollows := false }) (arguments g)
    return ← suffixesOf g true false (.expr (.other .new (names ++ args)))
  if afterNew then return .other .new names
  suffixesOf g true false (.expr (.other .new names))

/-- A member access or `new` expression; the flag tells whether it stands after `new`. -/
def memberRule (g : Grammar) (afterNew : Bool) : Parser Expr := do
  if ← eatWord "new" then return ← newRest g afterNew
  if ← eatWord "super" then return ← suffixesOf g true false .super
  if ← eatWord "import" then return ← importRest g true
  let e ← primary g
  match e with
  | .arrow _ _ => return e
  | _ =>
    let typeArgs? ← if ← at? .lt then instantiation? g else pure none
    let e :=
      match typeArgs? with
      | some args => .other .instantiation (e.names ++ args)
      | none => e
    suffixesOf g true false (.expr e)

/-- An expression that a call or an assignment may start with. -/
def leftHandRule (g : Grammar) : Parser Expr := do
  if ← eatWord "super" then return ← suffixesOf g false false .super
  if ← eatWord "import" then return ← importRest g false
  let e ← memberRule g false
  match e with
  | .arrow _ _ => return e
  | _ =>
    let typeArgs? ←
      if (← at? .lt) || (← at? .shl) then
        attempt do
          let args ← typeArguments g
          unless ← at? .lparen do fail
          return some args
      else pure none
    let names := e.names ++ typeArgs?.getD .none
    if ← at? .lparen then
      let args ← within (fun c => { c with colonFollows := false }) (arguments g)
      return ← suffixesOf g false false (.expr (.other .call (names ++ args)))
    return e

/-! ### Operators -/

/-- The words and marks that stand before an operand. -/
def isUnaryOperator : TokenKind → Bool
  | .word w => ["delete", "void", "typeof"].contains w
  | .punct p => [Punct.plus, .minus, .tilde, .bang].contains p
  | _ => false

/-- The operand of `await`, or the name `await` where nothing is awaited. -/
def awaitRule (g : Grammar) : Parser Expr := do
  let t ← cur
  bump
  if ← at? .star then fail
  if !(← read).inAsync && ((← at? .rparen) || (← at? .rbracket)) then
    return .ident ⟨"await", t.start⟩
  return .other .await (← g.unary).names

/-- An operand with the operators before and after it.  A missing operand is tolerated after an
operator. -/
def unaryRule (g : Grammar) : Parser Expr := do
  let t ← cur
  let tsx := (← read).tsx
  if t.kind == .punct .lt && !tsx then
    bump
    if ← eatWord "const" then
      expect .gt
      return .other .other (← g.unary).names
    let ty ← g.type
    expect .gt
    return .other .typeAssertion (ty ++ (← g.unary).names)
  if t.kind == .punct .lt then
    let next ← peek
    unless next.isWord || next.kind == .punct .gt do fail
    let names ← g .jsxElement
    bump
    return .other .other names
  if t.kind == .punct .plusPlus || t.kind == .punct .minusMinus then
    bump
    return .other .update (← g.unary).names
  if isUnaryOperator t.kind then
    bump
    match ← recover g.unary with
    | some e => return .other .unary e.names
    | none => return .other .unary .none
  if t.kind == .word "await" then return ← awaitRule g
  let e ← leftHandRule g
  match e with
  | .arrow _ _ => return e
  | _ =>
    if ← newlineBefore? then return e
    if (← eat .plusPlus) || (← eat .minusMinus) then return .other .update e.names
    return e

/-- How tight a binary operator binds. -/
def binaryLevel? (includeIn : Bool) : TokenKind → Option Nat
  | .word "in" => if includeIn then some 7 else none
  | .word "instanceof" => some 7
  | .punct p =>
    match p with
    | .nullish | .pipePipe => some 1
    | .ampAmp => some 2
    | .pipe => some 3
    | .caret => some 4
    | .amp => some 5
    | .equality => some 6
    | .lt | .gt | .order => some 7
    | .shl | .shr => some 8
    | .plus | .minus => some 9
    | .star | .slash | .percent => some 10
    | .starStar => some 11
    | _ => none
  | _ => none

/-- The binary operators that bind tighter than a level, after their left operand. -/
def operatorsRule (g : Grammar) (left : Expr) (level : Nat) : Parser Expr :=
  iterate left fun left => do
    if !(← newlineBefore?) && level < 7 then
      if ← eatWord "as" then
        if ← eatWord "const" then return .again (.other .other left.names)
        return .again (.other .asType (left.names ++ (← g.type)))
      if ← eatWord "satisfies" then
        return .again (.other .satisfies (left.names ++ (← g.type)))
    if ← at? .gt then relex relexAngle
    let kind ← curKind
    match binaryLevel? (← read).includeIn kind with
    | none => return .done left
    | some l =>
      if l ≤ level then return .done left
      bump
      match left with
      | .other .unary _ | .other .await _ => if kind == .punct .starStar then fail
      | _ => pure ()
      let operand ← g.unary
      let right ← g (.operators operand (if kind == .punct .starStar then l - 1 else l))
      return .again (.other .binary (left.names ++ right.names))

/-! ### Whole expressions -/

/-- An expression that yields from a generator. -/
def yieldRule (g : Grammar) : Parser Expr := do
  bump
  if (← atStatementEnd?) then return .other .other .none
  if ← eat .star then return .other .other (← g.assignNames)
  if startsExpr (← curKind) then return .other .other (← g.assignNames)
  return .other .other .none

/-- An expression without commas, type parameters of a function apart. -/
def assignBase (g : Grammar) : Parser Expr := do
  let t ← cur
  if (← read).inGenerator && t.kind == .word "yield" then return ← yieldRule g
  let mayBeArrow :=
    match t.kind with
    | .word w => !reservedWords.contains w
    | .punct .lparen => true
    | _ => false
  modify fun s => { s with arrowStart := if mayBeArrow then some t.start else none }
  let e ← binary g
  match e with
  | .arrow _ _ => return e
  | _ =>
    if ← eat .question then
      return .other .conditional (e.names ++ (← conditionalBranches g))
    match e with
    | .other .binary _ | .other .unary _ | .other .update _ => return e
    | _ => finishAssign g e

/-- An expression without commas. -/
def assignRule (g : Grammar) : Parser Expr := do
  if (← at? .lt) && (← peek).isWord then
    let arrow? ← attempt <| within (fun c => { c with colonFollows := false }) do
      let typeParams ← typeParameters g
      match ← assignBase g with
      | .arrow names blockBody => return some (Expr.arrow (typeParams ++ names) blockBody)
      | _ => fail
    if let some e := arrow? then return e
  assignBase g

end Codemod.TypeScript
