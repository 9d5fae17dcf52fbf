import Codemod.TypeScript.Parser.Types

/-!
# Tags

A tag and what stands up to its end, read where the source may hold tags.  Every rule leaves the
last `>` in view, because what follows it is read differently inside and outside of a tag.

## Main definitions

* `jsxElementRule` — a tag, its attributes, its children and the tag that closes it.
-/

namespace Codemod.TypeScript

/-- A part of a name in a tag. -/
def jsxWord : Parser Occurrence := do
  relex lexJsxName
  anyName

/-- The name of a tag: its parts, and how it is spelt. -/
def jsxName : Parser (Names × String) := do
  let first ← jsxWord
  if ← eat .colon then
    let second ← jsxWord
    return (.one first ++ .one second, first.name ++ ":" ++ second.name)
  iterate (Names.one first, first.name) fun (found, spelling) => do
    if ← eat .dot then
      let part ← jsxWord
      return .again (found ++ .one part, spelling ++ "." ++ part.name)
    return .done (found, spelling)

/-- An expression in braces, which may be empty, with the closing brace left in view. -/
def jsxContainer (g : Grammar) : Parser Names := do
  expect .lbrace
  if ← at? .rbrace then return .none
  let _ ← eat .ellipsis
  let e ← bracketed g.expr
  unless ← at? .rbrace do fail
  return e.names

/-- The value of an attribute. -/
def jsxValue (g : Grammar) : Parser Names := do
  relex lexJsxString
  match ← curKind with
  | .string _ =>
    bump
    return .none
  | .punct .lbrace =>
    let names ← jsxContainer g
    bump
    return names
  | .punct .lt =>
    let names ← g .jsxElement
    bump
    return names
  | _ => fail

/-- An attribute of a tag. -/
def jsxAttribute (g : Grammar) : Parser Names := do
  if ← eat .lbrace then
    expect .ellipsis
    let e ← bracketed g.assign
    expect .rbrace
    return e.names
  let name ← jsxWord
  let second ← if ← eat .colon then pure (Names.one (← jsxWord)) else pure .none
  let value ← if ← eat .assign then jsxValue g else pure .none
  return .one name ++ second ++ value

/-- Goes on after the `>` or brace in view with the reading between tags. -/
def enterChildren : Parser Unit := do advanceTo (lexJsxChild (← cur).stop)

/-- What stands between a tag and the tag that closes it, which must have the same name. -/
def jsxChildren (g : Grammar) (name : String) : Parser Names :=
  iterate Names.none fun found => do
    match ← curKind with
    | .jsxText =>
      enterChildren
      return .again found
    | .punct .lbrace =>
      let names ← jsxContainer g
      enterChildren
      return .again (found ++ names)
    | .punct .lt =>
      if ← peekAt? .slash then
        bump
        bump
        let (names, spelling) ← if ← at? .gt then pure (Names.none, "") else jsxName
        if spelling != name then fail
        unless ← at? .gt do fail
        return .done (found ++ names)
      let names ← g .jsxElement
      enterChildren
      return .again (found ++ names)
    | _ => fail

/-- A tag with all that belongs to it. -/
def jsxElementRule (g : Grammar) : Parser Names := do
  expect .lt
  if ← at? .gt then
    enterChildren
    return ← jsxChildren g ""
  let (name, spelling) ← jsxName
  let typeArgs ← if ← at? .lt then typeArguments g else pure .none
  let attributes ← namesWhile (do return !(← at? .slash) && !(← at? .gt)) (jsxAttribute g)
  if ← eat .slash then
    unless ← at? .gt do fail
    return name ++ typeArgs ++ attributes
  enterChildren
  return name ++ typeArgs ++ attributes ++ (← jsxChildren g spelling)

end Codemod.TypeScript
