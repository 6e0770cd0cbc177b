import TableSql.CommandLine.Options

/-!
# Invocations

* `CommandName`, `Request` — the commands, and what a command is to do.
* `Invocation` — a request with what all commands have in common.
* `Invocation.parse` — the invocation that arguments stand for.
* `versionLine` — what is said of the version.

Main statement: `ofWord?_word` (the word of a command is read as that command).
-/

set_option autoImplicit false

namespace TableSql

/-- What a command is to do. Tables, grids, data, mappings and statements are given by the paths of
their files; dialects, kinds and templates by the words for them. -/
inductive Request where
  | create (table : String) (dialect : Option String)
  | sample (table kind : String) (dialect : Option String)
  | extract (grid : String) (template name dialect : Option String)
  | importSheet (table data : String) (mappings dialect : Option String)
  | detect (statement : String)
  | convert (table : String) (statement target : Option String)
  | check (table : String) (dialect : Option String)
  deriving DecidableEq, Repr

inductive CommandName where
  | ddl
  | dml
  | extract
  | importSheet
  | detect
  | convert
  | validate
  deriving DecidableEq, Repr

namespace CommandName

def all : List CommandName := [ddl, dml, extract, importSheet, detect, convert, validate]

def word : CommandName → String
  | ddl => "ddl"
  | dml => "dml"
  | extract => "extract"
  | importSheet => "import"
  | detect => "detect"
  | convert => "convert"
  | validate => "validate"

def ofWord? (text : String) : Option CommandName := all.find? (·.word == text)

theorem mem_all (command : CommandName) : command ∈ all := by
  cases command <;> decide

theorem ofWord?_word (command : CommandName) : ofWord? command.word = some command := by
  cases command <;> decide

end CommandName

def programName : String := "tablewright"

def programVersion : String := "0.1.0"

/-- The line that tells the version, perhaps behind a command. -/
def versionLine (command : Option CommandName) : String :=
  let name := match command with
    | some command => programName ++ "-" ++ command.word
    | none => programName
  name ++ " " ++ programVersion

namespace OptionSpec

/-- The options of every command, which may stand before and after it. -/
def shared : List OptionSpec :=
  [{ long := "config", short := some 'c', kind := .path },
   { long := "verbose", short := some 'v', kind := .flag },
   { long := "no-color", kind := .flag },
   { long := "help", short := some 'h', kind := .help },
   { long := "version", short := some 'V', kind := .version }]

/-- The file of a table. -/
def schema : OptionSpec := { long := "schema", short := some 's', kind := .path, required := true }

/-- The dialect of the result. -/
def dialect : OptionSpec := { long := "dialect", short := some 'd', kind := .word }

def ofCommand : CommandName → List OptionSpec
  | .ddl | .validate => [schema, dialect]
  | .dml => [schema, { long := "kind", short := some 'k', kind := .word }, dialect]
  | .extract =>
    [{ long := "grid", short := some 'g', kind := .path, required := true },
     { long := "template", short := some 't', kind := .word },
     { long := "table", kind := .word }, dialect]
  | .importSheet =>
    [schema, { long := "data", kind := .path, required := true },
     { long := "mapping", short := some 'm', kind := .path }, dialect]
  | .detect => [{ long := "ddl", kind := .path, required := true }]
  | .convert => [schema, { long := "ddl", kind := .path }, { long := "to", kind := .word }]

end OptionSpec

/-- The request of a command with its options. -/
def CommandName.request (command : CommandName) (options : OptionState) : Request :=
  let text (long : String) : String := (options.value? long).getD ""
  let dialect := options.value? "dialect"
  match command with
  | ddl => .create (text "schema") dialect
  | dml => .sample (text "schema") ((options.value? "kind").getD "select") dialect
  | extract =>
    .extract (text "grid") (options.value? "template") (options.value? "table") dialect
  | importSheet => .importSheet (text "schema") (text "data") (options.value? "mapping") dialect
  | detect => .detect (text "ddl")
  | convert => .convert (text "schema") (options.value? "ddl") (options.value? "to")
  | validate => .check (text "schema") dialect

/-- A request with what all commands have in common. -/
structure Invocation where
  config : Option String := none
  verbose : Bool := false
  plainText : Bool := false
  request : Request
  deriving DecidableEq, Repr

inductive ArgumentResult where
  | run (invocation : Invocation)
  | help
  /-- The version is asked for, perhaps behind a command. -/
  | version (command : Option CommandName)
  | usage
  deriving DecidableEq, Repr

namespace ArgumentResult

/-- What stopping behind a command, or before any, leads to. -/
def ofStop (command : Option CommandName) : Stop → ArgumentResult
  | .usage => usage
  | .help => help
  | .version => version command

/-- The result of the word `help`, which may be followed by one command, or by itself. -/
def ofHelp : List String → ArgumentResult
  | [] => help
  | [word] => if word = "help" ∨ (CommandName.ofWord? word).isSome then help else usage
  | _ => usage

end ArgumentResult

namespace Invocation

/-- The options of a command, all settled. -/
def commandOptions (command : CommandName) (arguments : List String) : Except Stop OptionState := do
  let options := OptionSpec.ofCommand command ++ OptionSpec.shared
  let (state, rest) ← OptionState.read options {} arguments
  if !rest.isEmpty then throw .usage
  let state ← state.settle
  if state.hasRequired options then return state else throw .usage

/-- A command with its own options and those before it. Its own ones win. -/
def ofOptions (command : CommandName) (outer inner : OptionState) : Invocation :=
  let given (long : String) : Option String := (inner.value? long).or (outer.value? long)
  { config := given "config"
    verbose := (given "verbose").isSome
    plainText := (given "no-color").isSome
    request := command.request inner }

def parse (arguments : List String) : ArgumentResult :=
  match OptionState.read OptionSpec.shared {} arguments with
  | .error stop => .ofStop none stop
  | .ok (_, []) => .usage
  | .ok (outer, word :: rest) =>
    if word = "help" then .ofHelp rest
    else
      match CommandName.ofWord? word with
      | none => .usage
      | some command =>
        match commandOptions command rest with
        | .error stop => .ofStop (some command) stop
        | .ok inner =>
          match outer.settle with
          | .error stop => .ofStop none stop
          | .ok outer => .run (ofOptions command outer inner)

end Invocation

end TableSql
