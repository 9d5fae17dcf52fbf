import Codemod.TypeScript.Parser.Expressions

/-!
# Statements and declarations

## Main definitions

* `statementRule` — a statement, or a declaration where one may stand.
* `variableNames` — declarations with `var`, `let` and `const`.
* `typeDeclaration?` — declarations of types, enumerations and namespaces.
-/

namespace Codemod.TypeScript

/-! ### Variables -/

/-- The words that declare variableNames. -/
inductive VariableKind
  | var | let_ | const | using
  deriving DecidableEq

/-- One declared variable with its type and value.  In the head of a loop the value may be missing
before `of` and `in`. -/
def declarator (g : Grammar) (inLoopHead : Bool) (kind : VariableKind) : Parser Names := do
  let p ← bindingPatternWith g (kind == .let_ || kind == .const)
  if p.kind == .ident then let _ ← eat .bang
  let ty ← typeAnnotation g
  let names := p.names ++ ty
  if inLoopHead && ((← atWord? "in") || (← atWord? "of")) then return names
  if ← eat .assign then return names ++ (← g.assignNames)
  if (← read).inDeclare || kind == .const || p.kind == .ident then return names
  fail

/-- The variableNames of one declaration.  A comma before the end is tolerated. -/
def declarators (g : Grammar) (inLoopHead : Bool) (kind : VariableKind) : Parser Names :=
  iterate Names.none fun found => do
    if ← at? .semi then return .done found
    let names ← declarator g inLoopHead kind
    if ← eat .comma then return .again (found ++ names)
    return .done (found ++ names)

/-- Skips to the end of a statement. -/
def skipStatement : Parser Unit :=
  iterate () fun _ => do
    if ← eatStatementEnd then return .done ()
    bump
    if (← curKind) == .error then fail
    return .again ()

/-- A declaration of variableNames, from its first word on.  What follows the last variable on its line
is skipped. -/
def variableNames (g : Grammar) (inLoopHead : Bool) : Parser Names := do
  let kind : VariableKind ←
    match ← curKind with
    | .word "const" => pure .const
    | .word "let" => pure .let_
    | _ => pure .var
  bump
  if inLoopHead && ((← atWord? "of") || (← atWord? "in")) then
    let empty ← lookAhead do
      bump
      let _ ← g.assign
      at? .rparen
    if empty then return .none
  let names ←
    if kind != .var || !inLoopHead then allowingIn (declarators g inLoopHead kind)
    else declarators g inLoopHead kind
  unless inLoopHead do
    unless ← eatStatementEnd do
      let _ ← recover g.expr
      skipStatement
  return names

/-- A declaration of resources with `using`, from that word on; `none` if the word is a name. -/
def resources? (g : Grammar) : Parser (Option Names) := do
  let next ← peek
  if next.newlineBefore || !next.isReference then return none
  bump
  return some (← declarators g false .using)

/-- `t.followsLet` tells whether a declaration with `let` may go on with the token `t`. -/
def Token.followsLet (t : Token) : Bool :=
  match t.kind with
  | .word w => !reservedWords.contains w || w == "this"
  | .punct .lbrace | .punct .lbracket => true
  | _ => false

/-! ### Declarations of types and namespaces -/

/-- The declaration of a type, after the word `type`. -/
def typeAlias (g : Grammar) : Parser Names := do
  let name ← anyName
  let params ← typeParameters? g
  expect .assign
  let ty ← g.type
  expectStatementEnd
  return .one name ++ params ++ ty

/-- The declaration of an interface, after the word `interface`. -/
def interfaceRest (g : Grammar) : Parser Names := do
  let name ← anyName
  let params ← typeParameters? g
  let parents ← if ← eatWord "extends" then heritage g else pure .none
  if ← atWord? "extends" then
    iterate () fun _ => do
      if (← curKind) == .eof || (← at? .lbrace) then return .done ()
      bump
      return .again ()
  return .one name ++ params ++ parents ++ (← typeMembers g)

/-- The name of a member of an enumeration. -/
def enumMemberName (g : Grammar) : Parser Names := do
  let t ← cur
  match t.kind with
  | .string _ | .number =>
    bump
    return .none
  | .punct .lbracket =>
    bump
    let e ← bracketed g.expr
    expect .rbracket
    match e with
    | .other .literal _ | .other .template .none => return .none
    | _ => return .one ⟨"", t.start⟩
  | _ => return .one (← anyName)

/-- A member of an enumeration.  Where a comma is missing the next token is skipped and the one
after it counts as the comma. -/
def enumMember (g : Grammar) : Parser Names := do
  let name ← enumMemberName g
  if ← eat .assign then return name ++ (← bracketed g.assignNames)
  if (← at? .comma) || (← at? .rbrace) then return name
  bump
  relex fun t => { t with kind := .punct .comma }
  return name

/-- The declaration of an enumeration, after the word `enum`. -/
def enumRest (g : Grammar) : Parser Names := do
  let name ← anyName
  expect .lbrace
  let members ← iterate Names.none fun found => do
    if ← at? .rbrace then return .done found
    let names ← enumMember g
    unless ← at? .rbrace do let _ ← eat .comma
    return .again (found ++ names)
  expect .rbrace
  return .one name ++ members

/-- The body of a namespace. -/
def moduleBlock (g : Grammar) : Parser Names := do
  expect .lbrace
  let names ←
    within (fun c => { c with topLevel := true, includeIn := true, colonFollows := false }) <|
      namesWhile (do return (← curKind) != .punct .rbrace && (← curKind) != .eof) (g .moduleItem)
  let _ ← eat .rbrace
  return names

/-- The declaration of a namespace, after the word `namespace` or `module`. -/
def namespaceRest (g : Grammar) : Parser Names := do
  let first ← anyName
  let path ← iterate (Names.one first) fun found => do
    if ← eat .dot then return .again (found ++ .one (← anyName))
    return .done found
  return path ++ (← moduleBlock g)

/-- The declaration of a module by its path, or of global names. -/
def ambientModule (g : Grammar) : Parser Names := do
  let name ←
    match ← curKind with
    | .string _ =>
      bump
      pure Names.none
    | .word "global" => pure (.one (← anyName))
    | _ => fail
  if ← at? .lbrace then return name ++ (← moduleBlock g)
  expectStatementEnd
  return name

/-- The declaration that a word opens, if it opens one.  With `next` the word is in view and is
always taken for the start of a declaration; without, it has been read, and what follows must bear
it out. -/
def typeDeclaration? (g : Grammar) (marks : Names) (word : String) (next : Bool) :
    Parser (Option Names) := do
  let skip : Parser Unit := if next then bump else pure ()
  match word with
  | "abstract" =>
    if next || ((← atWord? "class") && !(← newlineBefore?)) then
      skip
      expectWord "class"
      return some (marks ++ (← classRest g true))
    return none
  | "enum" =>
    if next || (← atReference?) then
      skip
      return some (← enumRest g)
    return none
  | "interface" =>
    if next || (← atReference?) then
      skip
      return some (← interfaceRest g)
    return none
  | "module" =>
    if ← newlineBefore? then return none
    skip
    match ← curKind with
    | .string _ => return some (← ambientModule g)
    | _ => if next || (← atReference?) then return some (← namespaceRest g) else return none
  | "namespace" =>
    if next || (← atReference?) then
      skip
      return some (← namespaceRest g)
    return none
  | "type" =>
    if next || (!(← newlineBefore?) && (← atReference?)) then
      skip
      return some (← typeAlias g)
    return none
  | _ => return none

/-- The declaration after the word `declare`, if there is one. -/
def ambientDeclaration? (g : Grammar) (marks : Names) : Parser (Option Names) :=
  within (fun c => { c with inDeclare := true }) do
    match ← curKind with
    | .word "function" => return some (marks ++ (← functionDeclaration g false false))
    | .word "class" =>
      bump
      return some (marks ++ (← classRest g true))
    | .word "const" =>
      if ← peekWord? "enum" then
        bump
        bump
        return some (← enumRest g)
      return some (← variableNames g false)
    | .word "var" | .word "let" => return some (← variableNames g false)
    | .word "global" => return some (← ambientModule g)
    | .word w => typeDeclaration? g marks w true
    | _ => return none

/-! ### Loops and branches -/

/-- An expression in parentheses. -/
def condition (g : Grammar) : Parser Names := do
  expect .lparen
  let names ← g.exprNames
  expect .rparen
  return names

/-- The head of a loop, and whether it runs over the items of something. -/
def forHead (g : Grammar) : Parser (Names × Bool) := do
  let next ← peek
  let declares :=
    match ← curKind with
    | .word "const" | .word "var" => true
    | .word "let" => next.followsLet
    | _ => false
  if declares then
    let names ← variableNames g true
    if let some rest ← each then return (names ++ rest.1, rest.2)
    expect .semi
    return (names ++ (← steps), false)
  if ← eat .semi then return (← steps, false)
  let usesName ← lookAhead do
    let _ ← eatWord "await"
    expectWord "using"
    let t ← cur
    if t.newlineBefore || !t.isReference || t.kind == .word "of" then return false
    bump
    return (← atWord? "of") || (← atWord? "in")
  if usesName then
    let _ ← eatWord "await"
    bump
    let name ← bindingName false
    match ← each with
    | some rest => return (.one name ++ rest.1, rest.2)
    | none => fail
  let first ← within (fun c => { c with includeIn := false }) g.expr
  if (← atWord? "of") || (← atWord? "in") then
    let p ← patternOf .target first
    match ← each with
    | some rest => return (p.names ++ rest.1, rest.2)
    | none => fail
  expect .semi
  return (first.names ++ (← steps), false)
where
  each : Parser (Option (Names × Bool)) := do
    if ← eatWord "of" then return some ((← allowingIn g.assignNames), true)
    if ← eatWord "in" then return some (← g.exprNames, false)
    return none
  steps : Parser Names := do
    let test ← if ← at? .semi then pure .none else g.exprNames
    expect .semi
    let update ← if ← at? .rparen then pure .none else g.exprNames
    return test ++ update

/-- A loop with `for`. -/
def forStatement (g : Grammar) : Parser Names := do
  bump
  let awaits ← eatWord "await"
  expect .lparen
  let (head, isOf) ← forHead g
  expect .rparen
  let body ← g (.statement false)
  if awaits && !isOf then fail
  return head ++ body

/-- A branch. -/
def ifStatement (g : Grammar) : Parser Names := do
  bump
  let test ← condition g
  let yes ← g (.statement false)
  let no ← if ← eatWord "else" then g (.statement false) else pure .none
  return test ++ yes ++ no

/-- A branch over cases, of which one may be the default. -/
def switchStatement (g : Grammar) : Parser Names := do
  bump
  let subject ← condition g
  expect .lbrace
  let cases ← iterate (Names.none, false) fun (found, hasDefault) => do
    let isCase ← atWord? "case"
    let isDefault ← atWord? "default"
    if !isCase && !isDefault then return .done found
    if isDefault && hasDefault then fail
    bump
    let test ← if isCase then g.exprNames else pure .none
    expect .colon
    let body ← namesWhile (do
      return !(← atWord? "case") && !(← atWord? "default") && !(← at? .rbrace)) (g (.statement true))
    return .again (found ++ test ++ body, hasDefault || isDefault)
  expect .rbrace
  return subject ++ cases

/-- The handler of an exception, if one is in view. -/
def catchClause (g : Grammar) : Parser Names := do
  unless ← eatWord "catch" do return .none
  let param ←
    if ← eat .lparen then do
      let p ← g.pattern
      let ty ← typeAnnotation g
      expect .rparen
      pure (p.names ++ ty)
    else pure .none
  return param ++ (← block g)

/-- The block that always runs, if one is in view. -/
def finallyBlock (g : Grammar) : Parser Names := do
  if ← eatWord "finally" then block g else return .none

/-- A guarded block. -/
def tryStatement (g : Grammar) : Parser Names := do
  bump
  let body ← block g
  let handler ← catchClause g
  return body ++ handler ++ (← finallyBlock g)

/-! ### Statements -/

/-- What a name at the start of a statement opens, if it is more than an expression. -/
def namedStatement? (g : Grammar) (marks : Names) (name : Occurrence) : Parser (Option Names) := do
  match name.name with
  | "declare" => ambientDeclaration? g marks
  | "global" =>
    if ← at? .lbrace then return some (.one name ++ (← moduleBlock g))
    return none
  | w => typeDeclaration? g marks w false

/-- A statement that starts with an expression: a labelled statement, a declaration that starts
with a name, or the expression itself. -/
def expressionStatement (g : Grammar) (marks : Names) : Parser Names := do
  let e ← bracketed g.expr
  if let .ident name := e then
    if ← eat .colon then
      return .one name ++ (← g (.statement false))
    if let some names ← namedStatement? g marks name then return names
    if name.name == "abstract" then
      if ← eatWord "interface" then return ← interfaceRest g
  if ← eatStatementEnd then return e.names
  if isBinaryPunct (← curKind) then return (← g (.operators e 0)).names
  fail

/-- A jump out of a loop, with the label it names. -/
def jumpStatement : Parser Names := do
  bump
  if ← eatStatementEnd then return .none
  let label ← identifier true
  expectStatementEnd
  return .one label

/-- A statement after its decorators. -/
def statementAfter (g : Grammar) (declarations : Bool) (marks : Names) : Parser Names := do
  let next ← peek
  match ← curKind with
  | .punct .lbrace => block g
  | .punct .semi =>
    bump
    return .none
  | .word w =>
    match w with
    | "const" =>
      if next.kind == .word "enum" then
        bump
        bump
        return ← enumRest g
      if declarations then variableNames g false else fail
    | "break" | "continue" => jumpStatement
    | "debugger" =>
      bump
      expectStatementEnd
      return .none
    | "do" =>
      bump
      let body ← g (.statement false)
      expectWord "while"
      let test ← condition g
      let _ ← eatStatementEnd
      return body ++ test
    | "for" => forStatement g
    | "function" => return marks ++ (← functionDeclaration g false false)
    | "class" =>
      bump
      return marks ++ (← classRest g true)
    | "if" => ifStatement g
    | "return" =>
      bump
      if ← eatStatementEnd then return .none
      let names ← g.exprNames
      expectStatementEnd
      return names
    | "switch" => switchStatement g
    | "throw" =>
      bump
      if ← newlineBefore? then fail
      let names ← g.exprNames
      expectStatementEnd
      return names
    | "catch" =>
      let _ ← recover (catchClause g)
      let _ ← recover (finallyBlock g)
      return .none
    | "finally" =>
      let _ ← recover (finallyBlock g)
      return .none
    | "try" => tryStatement g
    | "with" | "while" =>
      bump
      let test ← condition g
      return test ++ (← g (.statement false))
    | "var" => variableNames g false
    | "let" =>
      if declarations && next.followsLet then variableNames g false else expressionStatement g marks
    | "using" =>
      if declarations then
        if let some names ← resources? g then return names
      expressionStatement g marks
    | "await" =>
      if declarations && next.kind == .word "using" then
        let found ← attempt do
          bump
          resources? g
        if let some names := found then return names
      expressionStatement g marks
    | "interface" | "type" | "enum" =>
      if next.isWord && !next.newlineBefore then
        bump
        match w with
        | "interface" => interfaceRest g
        | "type" => typeAlias g
        | _ => enumRest g
      else expressionStatement g marks
    | "async" =>
      if next.kind == .word "function" && !next.newlineBefore then
        bump
        return marks ++ (← functionDeclaration g true false)
      expressionStatement g marks
    | _ => expressionStatement g marks
  | _ => expressionStatement g marks

/-- A statement.  Imports and exports have no place here, but an expression may start with
`import`. -/
def statementRule (g : Grammar) (declarations : Bool) : Parser Names := do
  let marks ← decorators g
  match ← curKind with
  | .word "import" =>
    let next ← peek
    if next.kind == .punct .lparen || next.kind == .punct .dot then
      let names ← g.exprNames
      let _ ← eatStatementEnd
      return names
    fail
  | .word "export" => fail
  | _ => statementAfter g declarations marks

end Codemod.TypeScript
