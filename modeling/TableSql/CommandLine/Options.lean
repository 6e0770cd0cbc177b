/-!
# Options of a command line

* `OptionSpec` — an option's names and what it takes.
* `Stop` — why arguments lead to no command.
* `OptionState.read` — reads options up to the first argument that belongs to none of them.

The value of an option may be the next argument. It is then looked at only when another option
comes or the options end, so a request for help in between is answered first.
-/

set_option autoImplicit false

namespace TableSql

/-- What an option takes, or asks for. -/
inductive OptionKind where
  | flag
  | word
  /-- A path, which is not empty. -/
  | path
  | help
  | version
  deriving DecidableEq, Repr

structure OptionSpec where
  long : String
  short : Option Char := none
  kind : OptionKind
  required : Bool := false
  deriving DecidableEq, Repr

def OptionSpec.takesValue (o : OptionSpec) : Bool := o.kind == .word || o.kind == .path

/-- Why arguments lead to no command. -/
inductive Stop where
  | usage
  | help
  | version
  deriving DecidableEq, Repr

inductive ArgumentForm where
  /-- Two dashes: no options after it. -/
  | separator
  | long (body : List Char)
  | short (body : List Char)
  | plain
  deriving DecidableEq, Repr

/-- The form of an argument. A single dash is plain. -/
def ArgumentForm.ofText (text : String) : ArgumentForm :=
  match text.toList with
  | ['-', '-'] => separator
  | '-' :: '-' :: body => long body
  | '-' :: c :: body => short (c :: body)
  | _ => plain

/-- The options given so far. The value of the last one may still be open. -/
structure OptionState where
  given : List (String × String) := []
  pending : Option (OptionSpec × Option String) := none
  deriving DecidableEq, Repr

namespace OptionState

/-- The value of an option; a flag has an empty one. -/
def value? (s : OptionState) (long : String) : Option String := s.given.lookup long

/-- Takes the value of an option, which is given only once. -/
def give (s : OptionState) (o : OptionSpec) (value : String) : Except Stop OptionState :=
  if (s.value? o.long).isSome || (o.kind == .path && value == "") then .error .usage
  else .ok { s with given := (o.long, value) :: s.given }

/-- Looks at the value that is still open. -/
def settle (s : OptionState) : Except Stop OptionState :=
  match s.pending with
  | none => .ok s
  | some (_, none) => .error .usage
  | some (o, some value) => { s with pending := none }.give o value

def takeFlag (s : OptionState) (o : OptionSpec) : Except Stop OptionState := do
  let s ← s.settle
  match o.kind with
  | .help => throw .help
  | .version => throw .version
  | _ => s.give o ""

/-- Takes an option whose value is attached, or else is the next argument. -/
def takeValue (s : OptionState) (o : OptionSpec) (attached : Option String) :
    Except Stop OptionState := do
  let s ← s.settle
  match attached with
  | some value => s.give o value
  | none => return { s with pending := some (o, none) }

/-- Reads a long option: its name, and its value after an equals sign. -/
def readLong (options : List OptionSpec) (s : OptionState) (body : List Char) :
    Except Stop OptionState :=
  let (name, rest) := body.span (· ≠ '=')
  match options.find? (·.long == String.ofList name), rest with
  | none, _ => .error .usage
  | some o, [] => if o.takesValue then s.takeValue o none else s.takeFlag o
  | some o, _ :: value =>
    if o.takesValue then s.takeValue o (some (String.ofList value)) else .error .usage

/-- The value attached to a short option, perhaps after an equals sign. -/
def attachedToShort : List Char → Option String
  | [] => none
  | '=' :: value => some (String.ofList value)
  | value => some (String.ofList value)

/-- Reads short options written together. What follows one that takes a value is its value. -/
def readShort (options : List OptionSpec) (s : OptionState) : List Char → Except Stop OptionState
  | [] => .ok s
  | c :: rest =>
    match options.find? (·.short == some c) with
    | none => .error .usage
    | some o =>
      if o.takesValue then s.takeValue o (attachedToShort rest)
      else do readShort options (← s.takeFlag o) rest

/-- Reads options up to the first argument that belongs to none of them, and gives back the
arguments from there on. -/
def read (options : List OptionSpec) (s : OptionState) :
    List String → Except Stop (OptionState × List String)
  | [] => .ok (s, [])
  | argument :: rest =>
    match ArgumentForm.ofText argument with
    | .separator => if rest.isEmpty then .ok (s, []) else .error .usage
    | .long body => do read options (← s.readLong options body) rest
    | .short body => do read options (← s.readShort options body) rest
    | .plain =>
      match s.pending with
      | some (o, none) => read options { s with pending := some (o, some argument) } rest
      | _ => .ok (s, argument :: rest)

def hasRequired (options : List OptionSpec) (s : OptionState) : Bool :=
  options.all fun o => !o.required || (s.value? o.long).isSome

end OptionState

end TableSql
