import Codemod.Regex.Expr
import Codemod.Regex.Reader

/-!
# Programs that match

An expression is compiled into states.  From a state the search goes on to other states, those of
the preferred way first; of the ways that reach a state at the same place of the text only the
first counts.

## Main definitions

* `State`, `Program` — the states of an expression.
* `compile` — the program of a pattern, or why the pattern is refused.
* `Program.find?` — the leftmost match from a place on.
* `Program.matches` — all matches that do not overlap.
-/

namespace Codemod.Regex

open Codemod.Text

/-! ### Programs -/

/-- A state of a program. -/
inductive State
  /-- Reads a character of the set. -/
  | chars (set : CharSet) (next : Nat)
  /-- Goes on where a condition holds. -/
  | look (l : Look) (next : Nat)
  /-- Goes on to each of the states, the first one preferred. -/
  | branch (targets : List Nat)
  /-- Notes the place. -/
  | note (slot : Nat) (next : Nat)
  /-- Ends a match. -/
  | done
  deriving Inhabited

/-- A program under construction, or complete. -/
abbrev States := Array State

/-- Adds a state and gives its number. -/
def addState (s : State) (states : States) : Nat × States := (states.size, states.push s)

/-- What leads from a repetition on: into its body or out of it. -/
def loopState (greedy : Bool) (body next : Nat) : State :=
  .branch (if greedy then [body, next] else [next, body])

/-- Adds an expression several times in a row. -/
def emitTimes (emit : Nat → States → Nat × States) : Nat → Nat → States → Nat × States
  | 0, next, states => (next, states)
  | n + 1, next, states =>
    let (start, states) := emit next states
    emitTimes emit n start states

/-- Adds an expression up to a number of times, each one nested in the one before. -/
def emitOptional (emit : Nat → States → Nat × States) (greedy : Bool) (exit : Nat) :
    Nat → Nat → States → Nat × States
  | 0, next, states => (next, states)
  | n + 1, next, states =>
    let (body, states) := emit next states
    let (start, states) := addState (loopState greedy body exit) states
    emitOptional emit greedy exit n start states

/-- Adds an expression that loops: the number of its body's first state and of the state that
decides to go on. -/
def emitLoop (emit : Nat → States → Nat × States) (greedy : Bool) (next : Nat) (states : States) :
    Nat × Nat × States :=
  let (loop, states) := addState (.branch []) states
  let (body, states) := emit loop states
  (body, loop, states.setIfInBounds loop (loopState greedy body next))

mutual

/-- Adds the states of an expression before a state, and gives the number of the first. -/
def Expr.emit : Expr → Nat → States → Nat × States
  | .empty, next, states => (next, states)
  | .chars set, next, states => addState (.chars set next) states
  | .look l, next, states => addState (.look l next) states
  | .capture index _ sub, next, states =>
    let (stop, states) := addState (.note (2 * index + 1) next) states
    let (body, states) := sub.emit stop states
    addState (.note (2 * index) body) states
  | .concat parts, next, states => emitAll parts next states
  | .alt branches, next, states =>
    let (targets, states) := emitEach branches next states
    addState (.branch targets) states
  | .repeat sub min (some max) greedy, next, states =>
    let (start, states) := emitOptional (sub.emit · ·) greedy next (max - min) next states
    emitTimes (sub.emit · ·) min start states
  | .repeat sub 0 none greedy, next, states =>
    let (body, loop, states) := emitLoop (sub.emit · ·) greedy next states
    -- A body that may match nothing is entered by a way of its own, to keep the preference.
    if sub.consumes then (loop, states) else addState (loopState greedy body next) states
  | .repeat sub (min + 1) none greedy, next, states =>
    let (body, _, states) := emitLoop (sub.emit · ·) greedy next states
    emitTimes (sub.emit · ·) min body states

/-- Adds expressions in sequence. -/
def emitAll : List Expr → Nat → States → Nat × States
  | [], next, states => (next, states)
  | e :: es, next, states =>
    let (start, states) := emitAll es next states
    e.emit start states

/-- Adds expressions side by side. -/
def emitEach : List Expr → Nat → States → List Nat × States
  | [], _, states => ([], states)
  | e :: es, next, states =>
    let (start, states) := e.emit next states
    let (starts, states) := emitEach es next states
    (start :: starts, states)

end

/-- A compiled pattern. -/
structure Program where
  states : States
  start : Nat
  /-- The number of capturing groups. -/
  groups : Nat
  /-- The names of groups, in the order of the groups. -/
  names : List (String × Nat)
  deriving Inhabited

/-- The most states that a program may have. -/
def sizeLimit : Nat := 250000

/-- The program of an expression. -/
def Program.ofExpr (e : Expr) : Program :=
  let (start, states) := e.emit 0 #[.done]
  let groups := e.groups
  { states, start
    groups := groups.foldl (fun n g => max n g.1) 0
    names := groups.filterMap fun g => g.2.map fun name => (name, g.1) }

/-- Compiles a pattern, or says why it is refused. -/
abbrev Compiler := (pattern : List Char) → Except Failure Program

/-- Compiles a pattern. -/
def compile : Compiler := fun pattern => do
  let p ← readPattern pattern
  let e ← Expr.ofPattern p
  if sizeLimit < e.size then throw .tooBig
  return .ofExpr e

/-! ### Searching -/

/-- `wordAt unicode c` tells whether there is a character at a place, `c`, and it is one of
words. -/
def wordAt (unicode : Bool) (c : Option Char) : Bool :=
  match c with
  | none => false
  | some c => if unicode then isWordChar c else c.isAlphanum || c = '_'

/-- `l.holds before after` tells whether the condition `l` holds between the characters `before`
and `after`. -/
def Look.holds (l : Look) (before after : Option Char) : Bool :=
  match l with
  | .startText => before.isNone
  | .endText => after.isNone
  | .startLine => before.isNone || before == some '\n'
  | .endLine => after.isNone || after == some '\n'
  | .startCrlfLine =>
    before.isNone || before == some '\n' || (before == some '\r' && after != some '\n')
  | .endCrlfLine =>
    after.isNone || after == some '\r' || (after == some '\n' && before != some '\r')
  | .boundary u => wordAt u before != wordAt u after
  | .notBoundary u => wordAt u before == wordAt u after
  | .wordStart u => !wordAt u before && wordAt u after
  | .wordEnd u => wordAt u before && !wordAt u after
  | .wordStartHalf u => !wordAt u before
  | .wordEndHalf u => !wordAt u after

/-- The places noted so far. -/
abbrev Slots := Array (Option Nat)

/-- A way to go on: a state that reads a character or ends the match, and the places noted. -/
structure Thread where
  state : Nat
  slots : Slots

/-- The ways to go on at a place, and the states that have been reached there. -/
structure Front where
  seen : Array Bool
  threads : Array Thread

/-- No way to go on. -/
def Front.empty (size : Nat) : Front := ⟨Array.replicate size false, #[]⟩

/-- The number of steps that suffice to follow all ways between two characters. -/
def Program.weight (p : Program) : Nat :=
  p.states.foldl (fun n s => match s with | .branch ts => n + ts.length + 1 | _ => n + 1) 1

/-- Follows the ways from states on the stack as far as they go without reading. -/
def Program.close (p : Program) (text : Array Char) (pos : Nat) :
    Nat → List (Nat × Slots) → Front → Front
  | 0, _, front => front
  | _ + 1, [], front => front
  | fuel + 1, (pc, slots) :: stack, front =>
    if front.seen.getD pc true then p.close text pos fuel stack front
    else
      let front := { front with seen := front.seen.setIfInBounds pc true }
      match p.states.getD pc .done with
      | .branch targets => p.close text pos fuel (targets.map (·, slots) ++ stack) front
      | .note slot next => p.close text pos fuel ((next, slots.setIfInBounds slot (some pos)) :: stack) front
      | .look l next =>
        let before := if pos = 0 then none else text[pos - 1]?
        if l.holds before text[pos]? then p.close text pos fuel ((next, slots) :: stack) front
        else p.close text pos fuel stack front
      | _ => p.close text pos fuel stack { front with threads := front.threads.push ⟨pc, slots⟩ }

/-- Moves the ways over one character, the preferred ones first; a way that ends the match cuts off
those after it. -/
def Program.advance (p : Program) (text : Array Char) (pos weight : Nat) :
    List Thread → Front → Option Slots → Front × Option Slots
  | [], front, found => (front, found)
  | t :: ts, front, found =>
    match p.states.getD t.state .done with
    | .done => (front, some (t.slots.setIfInBounds 1 (some pos)))
    | .chars set next =>
      match text[pos]? with
      | some c =>
        if set.contains c then
          p.advance text pos weight ts (p.close text (pos + 1) weight [(next, t.slots)] front) found
        else p.advance text pos weight ts front found
      | none => p.advance text pos weight ts front found
    | _ => p.advance text pos weight ts front found

/-- Runs the ways to their end and gives the places of the match found last. -/
def Program.run (p : Program) (text : Array Char) (weight : Nat) :
    Nat → Nat → Front → Option Slots → Option Slots
  | 0, _, _, found => found
  | fuel + 1, pos, front, found =>
    if front.threads.isEmpty then found
    else
      let (next, found) :=
        p.advance text pos weight front.threads.toList (.empty p.states.size) found
      p.run text weight fuel (pos + 1) next found

/-- A match: the places where it and its groups start and stop. -/
structure Match where
  start : Nat
  stop : Nat
  groups : Array (Option (Nat × Nat))
  deriving Inhabited

/-- The match that the noted places spell. -/
def Match.ofSlots (groups : Nat) (slots : Slots) : Match :=
  let place (i : Nat) : Option Nat := slots.getD i none
  { start := (place 0).getD 0
    stop := (place 1).getD 0
    groups := ((List.range (groups + 1)).map fun g =>
      match place (2 * g), place (2 * g + 1) with
      | some a, some b => some (a, b)
      | _, _ => none).toArray }

/-- The match that starts at a place. -/
def Program.matchAt? (p : Program) (text : Array Char) (pos : Nat) : Option Match :=
  let weight := p.weight
  let slots : Slots := (Array.replicate (2 * (p.groups + 1)) none).setIfInBounds 0 (some pos)
  let front := p.close text pos weight [(p.start, slots)] (.empty p.states.size)
  (p.run text weight (text.size - pos + 1) pos front none).map (.ofSlots p.groups)

/-- The first match that starts at a place or one of a number of places after it. -/
def Program.findWithin (p : Program) (text : Array Char) : Nat → Nat → Option Match
  | 0, _ => none
  | fuel + 1, pos =>
    match p.matchAt? text pos with
    | some m => some m
    | none => p.findWithin text fuel (pos + 1)

/-- The leftmost match from a place on. -/
def Program.find? (p : Program) (text : Array Char) (pos : Nat) : Option Match :=
  p.findWithin text (text.size + 1 - pos) pos

/-- The matches from a place on.  An empty match where the one before ended does not count. -/
def Program.matchesFrom (p : Program) (text : Array Char) :
    Nat → Nat → Option Nat → List Match
  | 0, _, _ => []
  | fuel + 1, pos, last =>
    match p.find? text pos with
    | none => []
    | some m =>
      if m.start = m.stop && some m.stop = last then p.matchesFrom text fuel (pos + 1) none
      else m :: p.matchesFrom text fuel m.stop (some m.stop)

/-- All matches that do not overlap, from left to right. -/
def Program.matches (p : Program) (text : Array Char) : List Match :=
  p.matchesFrom text (2 * text.size + 2) 0 none

end Codemod.Regex
