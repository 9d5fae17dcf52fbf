import Codemod.Json.Value
import Codemod.Log.Filter

/-!
# Events as lines

## Main definitions

* `Line` — a line of text or a document.
* `plainLine` — an event as a line of text.
* `documentLine` — an event as a document.
-/

namespace Codemod.Log

/-- A line of text or a document. -/
inductive Line
  | text (s : String)
  | document (v : Json.Value)
  deriving Inhabited

/-- Fields in words. -/
def renderFields (fields : List (String × FieldValue)) : List String :=
  fields.map fun f => f.1 ++ "=" ++ f.2.render

/-- A piece of work in words. -/
def renderSpan (s : Span) : String :=
  let fields := " ".intercalate (renderFields s.fields)
  s.name ++ (if fields.isEmpty then "" else "\x7b" ++ fields ++ "\x7d") ++ ":"

/-- An event as a line of text. -/
def plainLine (f : Filter) (e : Event) : Line :=
  let spans := String.join ((e.spans.filter f.showsSpan).map renderSpan)
  let spans := if spans.isEmpty then [] else [spans]
  .text (" ".intercalate ([e.level.name] ++ spans ++ [e.message] ++ renderFields e.fields))

/-- The value of a field in a document. -/
def fieldDocument : FieldValue → Json.Value
  | .text s => .string s
  | .number n => .number n
  | .flag b => .bool b

/-- Fields in a document. -/
def fieldsDocument (fields : List (String × FieldValue)) : List (String × Json.Value) :=
  fields.map fun f => (f.1, fieldDocument f.2)

/-- A piece of work in a document. -/
def spanDocument (s : Span) : Json.Value :=
  .object (fieldsDocument s.fields ++ [("name", .string s.name)])

/-- An event as a document. -/
def documentLine (f : Filter) (e : Event) : Line :=
  let spans := e.spans.filter f.showsSpan
  let context := match spans.getLast? with
    | none => []
    | some s => [("span", spanDocument s), ("spans", Json.Value.array (spans.map spanDocument))]
  .document (.object ([("level", Json.Value.string e.level.name),
    ("fields", .object (("message", .string e.message) :: fieldsDocument e.fields)),
    ("target", .string e.target)] ++ context))

end Codemod.Log
