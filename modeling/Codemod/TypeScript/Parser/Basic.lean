import Codemod.TypeScript.Lexer
import Codemod.TypeScript.Tree

/-!
# The parser's state and its steps

A parser reads tokens one by one with one token in view.  A rule that fails leaves the state where
it stopped, because the rules that recover from an error look at the token it stopped at; `attempt`
and `lookAhead` restore the state they started from.

The rules of the grammar call each other without end, so they are written against a record
`Grammar` of rules to call, and the record is closed by fuel.

## Main definitions

* `Context`, `State`, `Parser` — the parser's surroundings, its state and its monad.
* `bump`, `eat`, `expect` and their kin — steps over tokens.
* `attempt`, `lookAhead`, `iterate` — backtracking and bounded repetition.
* `Goal`, `Grammar` — the rules that call each other.
-/

namespace Codemod.TypeScript

/-- The surroundings that change what the grammar accepts. -/
structure Context where
  /-- Whether tags may stand among expressions. -/
  tsx : Bool
  /-- Bounds every repetition. -/
  bound : Nat
  /-- In the body of an async function. -/
  inAsync : Bool := false
  /-- In the body of a generator. -/
  inGenerator : Bool := false
  /-- In declarations without bodies. -/
  inDeclare : Bool := false
  /-- Whether `in` may be an operator. -/
  includeIn : Bool := true
  /-- Directly in a module or namespace. -/
  topLevel : Bool := false
  /-- In a branch of a conditional expression. -/
  inConditional : Bool := false
  /-- Whether a colon must follow the expression. -/
  colonFollows : Bool := false
  /-- Whether a type may not be conditional. -/
  noConditionalType : Bool := false
  /-- In a static block of a class. -/
  inStaticBlock : Bool := false

/-- The parser's state. -/
structure State where
  /-- The token in view. -/
  tok : Token
  /-- The comments before the tokens read, the last one first. -/
  comments : List Comment
  /-- Where an arrow function may start. -/
  arrowStart : Option Nat
  deriving Inhabited

/-- A rule of the grammar. -/
abbrev Parser := ReaderT Context (EStateM Unit State)

/-! ### Steps over tokens -/

/-- Stops with a syntax error. -/
def fail {α : Type} : Parser α := throw ()

/-- The token in view. -/
def cur : Parser Token := do return (← get).tok

/-- The kind of the token in view. -/
def curKind : Parser TokenKind := do return (← get).tok.kind

/-- Puts another token in view, counting the comments before the one that was. -/
def advanceTo (t : Token) : Parser Unit :=
  modify fun s => { s with tok := t, comments := s.tok.comments.reverse ++ s.comments }

/-- Reads the token in view. -/
def bump : Parser Unit := do advanceTo (lex (← cur).stop)

/-- Reads the token in view differently. -/
def relex (f : Token → Token) : Parser Unit := modify fun s => { s with tok := f s.tok }

/-- The token after the one in view. -/
def peek : Parser Token := do return lex (← cur).stop

/-- `at? p` tells whether the punctuation mark `p` is in view. -/
def at? (p : Punct) : Parser Bool := do return (← curKind) == .punct p

/-- `atWord? w` tells whether the word `w` is in view. -/
def atWord? (w : String) : Parser Bool := do return (← curKind) == .word w

/-- `peekAt? p` tells whether the punctuation mark `p` is next after the token in view. -/
def peekAt? (p : Punct) : Parser Bool := do return (← peek).kind == .punct p

/-- `peekWord? w` tells whether the word `w` is next after the token in view. -/
def peekWord? (w : String) : Parser Bool := do return (← peek).kind == .word w

/-- Reads this punctuation mark if it is in view. -/
def eat (p : Punct) : Parser Bool := do
  if ← at? p then
    bump
    return true
  return false

/-- Reads this word if it is in view. -/
def eatWord (w : String) : Parser Bool := do
  if ← atWord? w then
    bump
    return true
  return false

/-- Reads this punctuation mark. -/
def expect (p : Punct) : Parser Unit := do
  unless ← eat p do fail

/-- Reads this word. -/
def expectWord (w : String) : Parser Unit := do
  unless ← eatWord w do fail

/-- Tells whether a line break stands before the token in view. -/
def newlineBefore? : Parser Bool := do return (← cur).newlineBefore

/-- Tells whether a statement may end before the token in view. -/
def atStatementEnd? : Parser Bool := do
  let t ← cur
  return t.kind == .punct .semi || t.kind == .punct .rbrace || t.kind == .eof || t.newlineBefore

/-- Ends a statement if it may end here. -/
def eatStatementEnd : Parser Bool := do
  if ← eat .semi then return true
  atStatementEnd?

/-- Ends a statement. -/
def expectStatementEnd : Parser Unit := do
  unless ← eatStatementEnd do fail

/-! ### Words -/

/-- `t.isWord` tells whether the token `t` is any word. -/
def Token.isWord (t : Token) : Bool :=
  match t.kind with
  | .word _ => true
  | _ => false

/-- `t.isReference` tells whether the token `t` is a word that may refer to something. -/
def Token.isReference (t : Token) : Bool :=
  match t.kind with
  | .word w => !isReserved w
  | _ => false

/-- Tells whether any word is in view. -/
def atAnyWord? : Parser Bool := do return (← cur).isWord

/-- Tells whether a word is in view that may refer to something. -/
def atReference? : Parser Bool := do return (← cur).isReference

/-- Reads any word as a name. -/
def anyName : Parser Occurrence := do
  let t ← cur
  match t.kind with
  | .word w =>
    bump
    return ⟨w, t.start⟩
  | _ => fail

/-- Reads a word as an identifier.  Reserved words of strict code are tolerated, and `this` names
a parameter. -/
def identifier (allowYield : Bool) : Parser Occurrence := do
  let t ← cur
  match t.kind with
  | .word w =>
    if w == "await" then
      unless (← read).inDeclare do fail
    else if w == "yield" then
      unless allowYield do fail
    else if reservedWords.contains w && w != "this" then fail
    bump
    return ⟨w, t.start⟩
  | _ => fail

/-- Reads the name of a binding. -/
def bindingName (refuseLet : Bool) : Parser Occurrence := do
  if refuseLet then
    if ← atWord? "let" then fail
  identifier true

/-- Reads the name of a binding if one is in view. -/
def optionalBindingName (refuseLet : Bool) : Parser Names := do
  if ← atReference? then return .one (← bindingName refuseLet)
  return .none

/-! ### Backtracking and repetition -/

/-- Tries a rule: if it fails or declines, the state is restored. -/
def attempt {α : Type} (p : Parser (Option α)) : Parser (Option α) := fun ctx s =>
  match p ctx s with
  | .ok (some a) s' => .ok (some a) s'
  | .ok none _ => .ok none s
  | .error _ _ => .ok none s

/-- Tries a rule and restores the state in any case; a failure counts as no. -/
def lookAhead (p : Parser Bool) : Parser Bool := fun ctx s =>
  match p ctx s with
  | .ok b _ => .ok b s
  | .error _ _ => .ok false s

/-- Runs a rule; a failure leaves the state where the rule stopped. -/
def recover {α : Type} (p : Parser α) : Parser (Option α) := fun ctx s =>
  match p ctx s with
  | .ok a s' => .ok (some a) s'
  | .error _ s' => .ok none s'

/-- What a step of a repetition decides. -/
inductive Loop (β α : Type)
  | again (b : β)
  | done (a : α)

/-- Repeats a step at most a number of times. -/
def iterateFor {α β : Type} (step : β → Parser (Loop β α)) : Nat → β → Parser α
  | 0, _ => fail
  | n + 1, b => do
    match ← step b with
    | .again b => iterateFor step n b
    | .done a => return a

/-- Repeats a step until it is done.  Every step reads a token, so the bound is never reached. -/
def iterate {α β : Type} (b : β) (step : β → Parser (Loop β α)) : Parser α := do
  iterateFor step ((← read).bound) b

/-- Reads items as long as a test holds and joins their identifiers. -/
def namesWhile (continue? : Parser Bool) (item : Parser Names) : Parser Names :=
  iterate Names.none fun found => do
    if ← continue? then return .again (found ++ (← item))
    return .done found

/-- Reads items between commas up to a closing mark, which is left in view.  A comma may follow the
last item. -/
def commaList {α : Type} (close : Punct) (item : Parser α) : Parser (List α) :=
  iterate [] fun found => do
    if ← at? close then return .done found.reverse
    let x ← item
    if ← at? close then return .done (x :: found).reverse
    expect .comma
    return .again (x :: found)

/-- Runs a rule in changed surroundings. -/
def within {α : Type} (f : Context → Context) (p : Parser α) : Parser α := fun ctx => p (f ctx)

/-- Runs a rule where `in` is an operator. -/
def allowingIn {α : Type} (p : Parser α) : Parser α := within (fun c => { c with includeIn := true }) p

/-- Runs a rule inside brackets, where no colon of a conditional is awaited. -/
def bracketed {α : Type} (p : Parser α) : Parser α :=
  within (fun c => { c with includeIn := true, colonFollows := false }) p

/-! ### Rules that call each other -/

/-- The rules through which the grammar recurs. -/
inductive Goal
  /-- An expression without commas. -/
  | assign
  /-- An operand with the operators before and after it. -/
  | unary
  /-- The operators that bind tighter than a level and follow a left operand. -/
  | operators (left : Expr) (level : Nat)
  /-- A member access or a `new` expression; the flag tells whether it stands after `new`. -/
  | member (afterNew : Bool)
  /-- An expression that a call or an assignment may start with. -/
  | leftHand
  /-- The accesses and calls that follow an expression; the flags exclude calls and brackets. -/
  | suffixes (base : Expr) (noCall noBrackets : Bool)
  | type
  /-- A type that is not conditional. -/
  | plainType
  | pattern
  /-- A decorator. -/
  | decorator
  /-- A statement; the flag tells whether it may be a declaration. -/
  | statement (declarations : Bool)
  /-- A statement, import or export of a module. -/
  | moduleItem
  /-- A tag with what stands between it and its end. -/
  | jsxElement

/-- What a rule gives. -/
abbrev Goal.Result : Goal → Type
  | .assign | .unary | .operators _ _ | .member _ | .leftHand | .suffixes _ _ _ => Expr
  | .pattern => Pat
  | .type | .plainType | .decorator | .statement _ | .moduleItem | .jsxElement => Names

/-- The rules of the grammar. -/
abbrev Grammar := (g : Goal) → Parser g.Result

namespace Grammar

/-- An expression without commas. -/
def assign (g : Grammar) : Parser Expr := g .assign

/-- An operand. -/
def unary (g : Grammar) : Parser Expr := g .unary

/-- A type. -/
def type (g : Grammar) : Parser Names := g .type

/-- A pattern that binds. -/
def pattern (g : Grammar) : Parser Pat := g .pattern

/-- An expression, with commas. -/
def expr (g : Grammar) : Parser Expr := do
  let first ← g.assign
  if ← at? .comma then
    let names ← iterate first.names fun found => do
      if ← eat .comma then return .again (found ++ (← g.assign).names)
      return .done found
    return .other .other names
  return first

/-- The identifiers of an expression where `in` is an operator. -/
def exprNames (g : Grammar) : Parser Names := do return (← allowingIn g.expr).names

/-- The identifiers of an expression without commas. -/
def assignNames (g : Grammar) : Parser Names := do return (← g.assign).names

end Grammar

end Codemod.TypeScript
