/-!
# Events

What the engine does is told by events.  A computation that tells events gives its value together
with them, so that its value can be reasoned about alone.

## Main definitions

* `Level`, `Event`, `Span` — what is told, and the work it belongs to.
* `Logged` — a value with the events told on the way to it.
-/

namespace Codemod

/-- How grave an event is; the gravest is least. -/
inductive Level
  | error | warn | info | debug | trace
  deriving DecidableEq, Repr, Inhabited

/-- The rank of a level. -/
def Level.rank : Level → Nat
  | error => 0
  | warn => 1
  | info => 2
  | debug => 3
  | trace => 4

/-- The name of a level in capitals. -/
def Level.name : Level → String
  | error => "ERROR"
  | warn => "WARN"
  | info => "INFO"
  | debug => "DEBUG"
  | trace => "TRACE"

/-- The value of a field of an event. -/
inductive FieldValue
  | text (s : String)
  | number (n : Nat)
  | flag (b : Bool)
  deriving DecidableEq, Repr, Inhabited

/-- The text of a field's value. -/
def FieldValue.render : FieldValue → String
  | text s => s
  | number n => toString n
  | flag b => toString b

/-- Work that events belong to. -/
structure Span where
  level : Level
  /-- The part of the engine that does it. -/
  target : String
  name : String
  fields : List (String × FieldValue)
  deriving DecidableEq, Repr, Inhabited

/-- Something that the engine tells. -/
structure Event where
  level : Level
  /-- The part of the engine that tells it. -/
  target : String
  message : String
  fields : List (String × FieldValue)
  /-- The work that the event belongs to, the outermost first. -/
  spans : List Span
  deriving DecidableEq, Repr, Inhabited

/-- An event that belongs to further work. -/
def Event.within (s : Span) (e : Event) : Event := { e with spans := s :: e.spans }

/-- A value with the events told on the way to it, in order. -/
structure Logged (α : Type) where
  value : α
  events : List Event
  deriving Inhabited

namespace Logged

instance : Monad Logged where
  pure a := ⟨a, []⟩
  bind x f := ⟨(f x.value).value, x.events ++ (f x.value).events⟩

@[simp]
theorem value_pure {α : Type} (a : α) : (pure a : Logged α).value = a := rfl

@[simp]
theorem events_pure {α : Type} (a : α) : (pure a : Logged α).events = [] := rfl

@[simp]
theorem value_bind {α β : Type} (x : Logged α) (f : α → Logged β) :
    (x >>= f).value = (f x.value).value := rfl

@[simp]
theorem events_bind {α β : Type} (x : Logged α) (f : α → Logged β) :
    (x >>= f).events = x.events ++ (f x.value).events := rfl

/-- Tells an event. -/
def tell (level : Level) (target message : String) (fields : List (String × FieldValue)) :
    Logged Unit :=
  ⟨(), [⟨level, target, message, fields, []⟩]⟩

@[simp]
theorem events_tell (level : Level) (target message : String)
    (fields : List (String × FieldValue)) :
    (tell level target message fields).events = [⟨level, target, message, fields, []⟩] := rfl

/-- All events belong to further work. -/
def within {α : Type} (s : Span) (x : Logged α) : Logged α :=
  ⟨x.value, x.events.map (Event.within s)⟩

@[simp]
theorem value_within {α : Type} (s : Span) (x : Logged α) : (x.within s).value = x.value := rfl

/-- Goes on with a value if it was reached. -/
def andThen {ε α β : Type} (x : Logged (Except ε α)) (f : α → Logged (Except ε β)) :
    Logged (Except ε β) :=
  match x.value with
  | .ok a => ⟨(f a).value, x.events ++ (f a).events⟩
  | .error e => ⟨.error e, x.events⟩

theorem value_andThen_of_ok {ε α β : Type} {x : Logged (Except ε α)} {a : α}
    (f : α → Logged (Except ε β)) (h : x.value = .ok a) : (x.andThen f).value = (f a).value := by
  simp [andThen, h]

theorem value_andThen_of_error {ε α β : Type} {x : Logged (Except ε α)} {e : ε}
    (f : α → Logged (Except ε β)) (h : x.value = .error e) : (x.andThen f).value = .error e := by
  simp [andThen, h]

theorem value_andThen {ε α β : Type} (x : Logged (Except ε α)) (f : α → Logged (Except ε β)) :
    (x.andThen f).value = x.value >>= fun a => (f a).value := by
  cases h : x.value with
  | error e => exact value_andThen_of_error f h
  | ok a => exact value_andThen_of_ok f h

/-- Going on with nothing to do. -/
theorem andThen_pure {ε α : Type} (x : Logged (Except ε α)) :
    (x.andThen fun a => pure (.ok a)) = x := by
  obtain ⟨value, events⟩ := x
  cases value <;> simp [andThen]

/-- Going on from a value that is there. -/
theorem pure_andThen {ε α β : Type} (a : α) (f : α → Logged (Except ε β)) :
    (pure (.ok a) : Logged (Except ε α)).andThen f = f a := by
  simp [andThen]

theorem andThen_assoc {ε α β γ : Type} (x : Logged (Except ε α)) (f : α → Logged (Except ε β))
    (g : β → Logged (Except ε γ)) :
    (x.andThen f).andThen g = x.andThen fun a => (f a).andThen g := by
  obtain ⟨value, events⟩ := x
  cases value with
  | error e => rfl
  | ok a =>
    simp only [andThen]
    cases (f a).value <;> simp

end Logged

end Codemod
