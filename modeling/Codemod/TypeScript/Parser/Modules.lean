import Codemod.TypeScript.Parser.Statements

/-!
# Imports and exports

## Main definitions

* `importDeclaration`, `exportDeclaration` — the two kinds of declarations of a module.
* `moduleItemRule` — a statement, import or export.
-/

namespace Codemod.TypeScript

/-! ### Parts of imports and exports -/

/-- The attributes of an import, if they are in view. -/
def importAttributes (g : Grammar) : Parser Names := do
  if ← newlineBefore? then return .none
  if (← eatWord "with") || (← eatWord "assert") then
    unless ← at? .lbrace do fail
    return (← objectLiteral g).names
  return .none

/-- The path of a module, its attributes and the end of the statement. -/
def fromClause (g : Grammar) : Parser Names := do
  expectWord "from"
  match ← curKind with
  | .string _ => bump
  | _ => fail
  let attributes ← importAttributes g
  let _ ← eatStatementEnd
  return attributes

/-- A name by which something is exported: a word, or a string that counts for no identifier. -/
def exportedName : Parser (Option Occurrence) := do
  match ← curKind with
  | .string _ =>
    bump
    return none
  | _ => return some (← anyName)

/-- The names of a specifier that starts with the word `type` and goes on with a word.  Each word
may be a name, the modifier `type` or the word `as`; `rename` reads the name after `as`. -/
def typeSpecifier (first : Occurrence) (rename : Parser Occurrence) :
    Parser (Occurrence × Names × Bool) := do
  let second ← anyName
  if second.name != "as" then return (second, .none, false)
  unless ← atAnyWord? do return (second, .none, true)
  let third ← rename
  if third.name != "as" then return (first, .one third, true)
  if ← atAnyWord? then return (second, .one (← rename), true)
  return (first, .one third, true)

/-- A specifier of an import. -/
def importSpecifier : Parser Names := do
  match ← exportedName with
  | none =>
    expectWord "as"
    return .one (← bindingName false)
  | some first =>
    let (name, local?, complete) ←
      if first.name == "type" && (← atAnyWord?) then typeSpecifier first (bindingName false)
      else pure (first, .none, false)
    if complete then return .one name ++ local?
    if ← eatWord "as" then return .one name ++ .one (← bindingName false)
    if isReserved name.name then fail
    return .one name

/-- A specifier of an export. -/
def exportSpecifier : Parser Names := do
  let first? ← exportedName
  let (name, renamed, complete) ←
    match first? with
    | none => pure (Names.none, Names.none, false)
    | some first =>
      if first.name == "type" && (← atAnyWord?) then do
        let (name, renamed, complete) ← typeSpecifier first anyName
        pure (.one name, renamed, complete)
      else pure (.one first, .none, false)
  if complete then return name ++ renamed
  if ← eatWord "as" then
    match ← exportedName with
    | some exported => return name ++ .one exported
    | none => return name
  return name

/-! ### Imports -/

/-- The rest of a declaration `import name = …`, from the sign on. -/
def importEquals (name : Occurrence) : Parser Names := do
  expect .assign
  if (← atWord? "require") && (← peekAt? .lparen) then
    bump
    expect .lparen
    match ← curKind with
    | .string _ => bump
    | _ => fail
    expect .rparen
    expectStatementEnd
    return .one name
  let target ← entityName
  expectStatementEnd
  return .one name ++ target

/-- The bindings in braces or after a star, if they are in view. -/
def importBindings : Parser Names := do
  if ← eat .star then
    expectWord "as"
    return .one (← bindingName false)
  if ← eat .lbrace then
    let names ← commaList .rbrace importSpecifier
    expect .rbrace
    return .concat names
  return .none

/-- Tells whether a default binding follows a modifier of an import.  The word `from` may be such a
name. -/
def atModifiedDefault? : Parser Bool := do
  unless ← atReference? do return false
  return !(← atWord? "from") || (← peekWord? "from")

/-- An import, after the word. -/
def importRestOf (g : Grammar) : Parser Names := do
  match ← curKind with
  | .string _ =>
    bump
    let attributes ← importAttributes g
    let _ ← eatStatementEnd
    return attributes
  | _ => pure ()
  unless ← atReference? do
    let names ← importBindings
    return names ++ (← fromClause g)
  let first ← bindingName false
  let bindingsFollow := do return (← at? .lbrace) || (← at? .star)
  let isType := first.name == "type"
  let isPhase := first.name == "source" || first.name == "defer"
  if (isType || isPhase) && (← bindingsFollow) then
    let names ← importBindings
    return names ++ (← fromClause g)
  let name ←
    if (isType || isPhase) && (← atModifiedDefault?) then bindingName false
    else if isType && (← atWord? "from") && (← peekAt? .assign) then anyName
    else pure first
  if ← at? .assign then return ← importEquals name
  unless ← atWord? "from" do expect .comma
  let names ← importBindings
  return .one name ++ names ++ (← fromClause g)

/-- An import, or an expression that starts with the word. -/
def importDeclaration (g : Grammar) : Parser Names := do
  let next ← peek
  if next.kind == .punct .dot || next.kind == .punct .lparen then
    let names ← g.exprNames
    let _ ← eatStatementEnd
    return names
  bump
  importRestOf g

/-! ### Exports -/

/-- The declaration after `export default`. -/
def defaultExport (g : Grammar) (marks : Names) : Parser Names := do
  let inner ← decorators g
  let marks := marks ++ inner
  let next ← peek
  match ← curKind with
  | .word "abstract" =>
    if next.kind == .word "class" && !next.newlineBefore then
      bump
      bump
      return marks ++ (← classRest g false)
    if next.kind == .word "interface" then
      bump
      bump
      return ← interfaceRest g
    value
  | .word "interface" =>
    bump
    interfaceRest g
  | .word "class" =>
    bump
    return marks ++ (← classRest g false)
  | .word "async" =>
    if next.kind == .word "function" && !next.newlineBefore then
      bump
      return marks ++ (← functionDeclaration g true true)
    value
  | .word "function" => return marks ++ (← functionDeclaration g false true)
  | _ => value
where
  value : Parser Names := do
    let names ← bracketed g.assignNames
    expectStatementEnd
    return names

/-- The specifiers of an export, from the star or brace on. -/
def exportBindings (g : Grammar) : Parser Names := do
  if ← eat .star then
    if ← eatWord "as" then
      let name ← exportedName
      return (name.map Names.one).getD .none ++ (← fromClause g)
    return ← fromClause g
  expect .lbrace
  let names ← commaList .rbrace exportSpecifier
  expect .rbrace
  if ← atWord? "from" then return .concat names ++ (← fromClause g)
  let _ ← eatStatementEnd
  return .concat names

/-- An exported declaration, or the specifiers of an export. -/
def exportRest (g : Grammar) (marks : Names) : Parser Names := do
  let inner ← decorators g
  let marks := marks ++ inner
  let next ← peek
  match ← curKind with
  | .word "class" =>
    bump
    return marks ++ (← classRest g true)
  | .word "async" =>
    if next.kind == .word "function" && !next.newlineBefore then
      bump
      return marks ++ (← functionDeclaration g true false)
    exportBindings g
  | .word "function" => return marks ++ (← functionDeclaration g false false)
  | .word "const" =>
    if next.kind == .word "enum" then
      bump
      bump
      return ← enumRest g
    variableNames g false
  | .word "var" => variableNames g false
  | .word "let" => if next.followsLet then variableNames g false else exportBindings g
  | _ => exportBindings g

/-- An export. -/
def exportDeclaration (g : Grammar) (marks : Names) : Parser Names := do
  bump
  if ← eatWord "declare" then
    if let some names ← ambientDeclaration? g marks then return names
  if let .word w ← curKind then
    let found ← attempt (typeDeclaration? g marks w true)
    if let some names := found then return names
  if ← eatWord "import" then
    if (← atWord? "type") && (← peek).isWord then bump
    return ← importEquals (← anyName)
  if ← eat .assign then
    let names ← g.exprNames
    expectStatementEnd
    return names
  if ← eatWord "as" then
    expectWord "namespace"
    let name ← identifier false
    expectStatementEnd
    return .one name
  if ← eatWord "type" then return ← exportBindings g
  if ← eatWord "default" then return ← defaultExport g marks
  exportRest g marks

/-- A statement, import or export of a module. -/
def moduleItemRule (g : Grammar) : Parser Names := do
  let marks ← decorators g
  match ← curKind with
  | .word "import" => importDeclaration g
  | .word "export" => exportDeclaration g marks
  | _ => statementAfter g true marks

end Codemod.TypeScript
