/-!
# Arguments

The arguments of the command are read from left to right.  The value of an option is either joined to
it by an equals sign or the next argument.

## Main definitions

* `Options` — what the arguments ask for.
* `Request` — options, or one of the requests that end the command.
* `Request.ofArguments` — what arguments ask for, or why they are refused.
-/

namespace Codemod.CommandLine

/-- What the arguments ask for. -/
structure Options where
  root : Option String := none
  rules : Option String := none
  scopeRoots : List String := []
  dryRun : Bool := false
  json : Bool := false
  deriving DecidableEq, Repr, Inhabited

/-- The path of the project. -/
def Options.rootPath (o : Options) : String := o.root.getD "."

/-- An option with a value. -/
inductive ValueOption
  | root | rules | scopeRoot
  deriving DecidableEq, Repr, Inhabited

/-- An option without a value. -/
inductive Switch
  | dryRun | json | help | version
  deriving DecidableEq, Repr, Inhabited

/-- How an option with a value is written. -/
def ValueOption.usage : ValueOption → String
  | root => "--root <ROOT>"
  | rules => "--rules <RULES>"
  | scopeRoot => "--scope-root <PREFIX>"

/-- How an option without a value is written. -/
def Switch.usage : Switch → String
  | dryRun => "--dry-run"
  | json => "--json"
  | help => "--help"
  | version => "--version"

/-- The option with a value of a name. -/
def valueOption? (name : String) : Option ValueOption :=
  if name = "root" then some .root
  else if name = "rules" then some .rules
  else if name = "scope-root" then some .scopeRoot
  else none

/-- The option without a value of a name. -/
def switch? (name : String) : Option Switch :=
  if name = "dry-run" then some .dryRun
  else if name = "json" then some .json
  else if name = "help" then some .help
  else if name = "version" then some .version
  else none

/-- Options, or one of the requests that end the command. -/
inductive Request
  | options (o : Options)
  | help
  | version
  deriving DecidableEq, Repr, Inhabited

/-- Why the reading of arguments stops. -/
inductive Stop
  | unexpected (argument : String)
  | unexpectedValue (value usage : String)
  | missingValue (usage : String)
  | repeated (usage : String)
  | help
  | version
  deriving DecidableEq, Repr, Inhabited

/-- The words for arguments that are refused. -/
def Stop.message : Stop → String
  | unexpected a => "unexpected argument '" ++ a ++ "' found"
  | unexpectedValue v usage =>
    "unexpected value '" ++ v ++ "' for '" ++ usage ++ "' found; no more were expected"
  | missingValue usage => "a value is required for '" ++ usage ++ "' but none was supplied"
  | repeated usage => "the argument '" ++ usage ++ "' cannot be used multiple times"
  | help | version => ""

/-- The value of an option that names a path, which must not be empty or given before. -/
def pathValue (option : ValueOption) (before : Option String) (v : String) : Except Stop String :=
  if before.isSome then .error (.repeated option.usage)
  else if v.isEmpty then .error (.missingValue option.usage)
  else .ok v

/-- Takes the value of an option. -/
def takeValue (o : Options) (option : ValueOption) (v : String) : Except Stop Options :=
  match option with
  | .root => (pathValue option o.root v).map fun v => { o with root := some v }
  | .rules => (pathValue option o.rules v).map fun v => { o with rules := some v }
  | .scopeRoot => .ok { o with scopeRoots := o.scopeRoots ++ [v] }

/-- Takes an option without a value. -/
def takeSwitch (o : Options) (s : Switch) : Except Stop Options :=
  match s with
  | .dryRun => if o.dryRun then .error (.repeated s.usage) else .ok { o with dryRun := true }
  | .json => if o.json then .error (.repeated s.usage) else .ok { o with json := true }
  | .help => .error .help
  | .version => .error .version

/-- An option whose value has not been taken yet. -/
structure Pending where
  option : ValueOption
  /-- Its value, if it has been read. -/
  value : Option String
  deriving DecidableEq, Repr, Inhabited

/-- Takes the value of the option that waits for it. -/
def settle (o : Options) : Option Pending → Except Stop Options
  | none => .ok o
  | some ⟨option, none⟩ => .error (.missingValue option.usage)
  | some ⟨option, some v⟩ => takeValue o option v

/-- The name of an option and the value joined to it. -/
def splitValue (cs : List Char) : String × Option String :=
  let name := cs.takeWhile (· ≠ '=')
  match cs.drop name.length with
  | _ :: v => (String.ofList name, some (String.ofList v))
  | [] => (String.ofList name, none)

/-- Reads arguments.  An option is only taken when the next one comes, so that an argument that is
not known is refused first. -/
def readArguments (o : Options) (pending : Option Pending) : List String → Except Stop Options
  | [] => settle o pending
  | a :: rest =>
    match a.toList with
    | ['-', '-'] =>
      match rest with
      | [] => settle o pending
      | b :: _ => .error (.unexpected b)
    | '-' :: '-' :: cs =>
      let (name, value) := splitValue cs
      match valueOption? name, switch? name with
      | some option, _ =>
        match settle o pending with
        | .error e => .error e
        | .ok o =>
          match value with
          | some v =>
            match takeValue o option v with
            | .error e => .error e
            | .ok o => readArguments o none rest
          | none => readArguments o (some ⟨option, none⟩) rest
      | none, some s =>
        match value with
        | some v => .error (.unexpectedValue v s.usage)
        | none =>
          match (settle o pending).bind fun o => takeSwitch o s with
          | .error e => .error e
          | .ok o => readArguments o none rest
      | none, none => .error (.unexpected ("--" ++ name))
    | '-' :: c :: _ =>
      if c = 'h' || c = 'V' then
        match (settle o pending).bind fun o => takeSwitch o (if c = 'h' then .help else .version) with
        | .error e => .error e
        | .ok o => readArguments o none rest
      else .error (.unexpected (String.ofList ['-', c]))
    | _ =>
      match pending with
      | some ⟨option, none⟩ => readArguments o (some ⟨option, some a⟩) rest
      | _ => .error (.unexpected a)

/-- What arguments ask for, or why they are refused. -/
def Request.ofArguments (arguments : List String) : Except Stop Request :=
  match readArguments {} none arguments with
  | .ok o => .ok (.options o)
  | .error .help => .ok .help
  | .error .version => .ok .version
  | .error e => .error e

end Codemod.CommandLine
