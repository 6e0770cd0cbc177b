import TableSql.CommandLine.Invocation
import TableSql.CommandLine.ReportText
import TableSql.Convert.Statement
import TableSql.File
import TableSql.Grid.Extract
import TableSql.Import

/-!
# Running a command

* `Workspace` — the directory in which a command runs and what is found under each path.
* `Workspace.config` — the configuration that holds for an invocation.
* `Workspace.run` — the output of a request.
* `Invocation.run` — the output of an invocation.

Words are understood before any file is read, and files are read in the order in which they are
needed, so the first fault is reported.
-/

set_option autoImplicit false

namespace TableSql

/-- The directory in which a command runs and what is found under each path. -/
structure Workspace where
  directory : String
  file : String → FileText

/-- The name of the file with a project's configuration. -/
def configFileName : String := ".tablewright.yaml"

/-- The dialect of a user's word, or else that of the configuration. -/
def Config.chosenDialect (c : Config) : Option String → Except Failure Dialect
  | some word => Dialect.parse word
  | none => .ok c.dialect

/-- The dialect into which a statement is converted if none is asked for: the one it is not
written in. -/
def conversionTarget (statement : String) : Dialect :=
  match detectDialect statement with
  | .doris => .mysql
  | _ => .doris

/-- The name for the table of a grid: the given one, or else one made from the name of the file. -/
def gridTableName (path : String) (given : Option String) : Except Failure String :=
  match nonEmpty? (given.map Text.strip) with
  | some name => .ok name
  | none =>
    match nonEmpty? ((Path.stem? path).map tableNameOfSheet) with
    | some name => .ok name
    | none => .error { cause := .noTableName path }

/-- The note in front of a statement for the table of a grid. -/
def NamedTemplate.note (t : NamedTemplate) : String :=
  s!"-- Using Template: {t.name}\n-- Rules: Start Row {t.layout.startRow.toNat}, " ++
    s!"Cols [{t.layout.nameColumn}, {t.layout.typeColumn}]\n\n"

/-- A refusal becomes a failure of what was being done. -/
def orFail {α : Type} (context : String) (result : Except TableError α) : Except Failure α :=
  result.mapError (Failure.ofRefusal context)

namespace Workspace

def table (w : Workspace) (path : String) : Except Failure Table := (w.file path).table path

/-- The configuration for an invocation: that of the given file, or else that of the project, or
else the default one. -/
def config (w : Workspace) (given : Option String) : Except Failure Config :=
  let load (path : String) (found : FileText) : Except Failure Config :=
    (found.config path).mapError (Failure.within "Failed to read config file")
  match given with
  | some path =>
    let path := Path.fromDirectory w.directory path
    load path (w.file path)
  | none =>
    let path := Path.fromDirectory w.directory configFileName
    match w.file path with
    | .missing => .ok {}
    | found => load path found

/-- CREATE TABLE for a table. -/
def create (w : Workspace) (d : Dialect) (tablePath : String) : Except Failure String := do
  let t ← w.table tablePath
  orFail s!"Failed to generate DDL for table '{t.name}'" (t.create? d)

/-- A sample statement for a table. -/
def sample (w : Workspace) (kind : DmlKind) (d : Dialect) (tablePath : String) :
    Except Failure String := do
  let t ← w.table tablePath
  orFail s!"Failed to generate {kind.name} statement for table '{t.name}'" (t.sample? kind d)

/-- CREATE TABLE for the table that a grid describes, with a note on the template. -/
def extract (w : Workspace) (template : NamedTemplate) (d : Dialect) (gridPath : String)
    (name : Option String) : Except Failure String := do
  let name ← gridTableName gridPath name
  let grid ← (w.file gridPath).grid gridPath
  let t ← orFail s!"Failed to extract table definition from {gridPath}"
    (extractTable? name grid template.layout)
  let sql ← orFail s!"No column definitions found with template '{template.name}'" (t.create? d)
  return template.note ++ sql

/-- INSERT of the rows of a sheet. Without mappings, headers are matched to columns by name. -/
def importSheet (w : Workspace) (d : Dialect) (tablePath dataPath : String)
    (mappingPath : Option String) : Except Failure String := do
  let t ← w.table tablePath
  let sheet ← (w.file dataPath).sheet dataPath
  let mappings ←
    match mappingPath with
    | some path => (w.file path).mappings path
    | none => pure (t.autoMap sheet.headers)
  return t.importStatement d mappings sheet

def detect (w : Workspace) (statementPath : String) : Except Failure String := do
  return (detectDialect (← (w.file statementPath).content statementPath)).name

/-- CREATE TABLE of the one of MySQL and Doris for a table of the other. -/
def convert (w : Workspace) (target : Option Dialect) (tablePath : String)
    (statementPath : Option String) : Except Failure String := do
  let t ← w.table tablePath
  let statement ← statementPath.mapM fun path => (w.file path).content path
  match target.or (statement.map conversionTarget) with
  | none => throw { cause := .noTarget }
  | some target =>
    orFail s!"Failed to convert DDL for table '{t.name}'" (t.convert? (statement.getD "") target)

def check (w : Workspace) (coloured : Bool) (d : Dialect) (tablePath : String) :
    Except Failure String := do
  let t ← w.table tablePath
  return (t.check d).text coloured d t

def run (w : Workspace) (c : Config) (coloured : Bool) : Request → Except Failure String
  | .create table dialect => do w.create (← c.chosenDialect dialect) table
  | .sample table kind dialect => do
    let kind ← DmlKind.parse kind
    w.sample kind (← c.chosenDialect dialect) table
  | .extract grid template name dialect => do
    let template ← (c.template? template).mapError fun e => { cause := .unknownTemplate e }
    w.extract template (← c.chosenDialect dialect) grid name
  | .importSheet table data mappings dialect => do
    w.importSheet (← c.chosenDialect dialect) table data mappings
  | .detect statement => w.detect statement
  | .convert table statement target => do
    let target ← target.mapM Dialect.parse
    w.convert target table statement
  | .check table dialect => do w.check coloured (← c.chosenDialect dialect) table

end Workspace

/-- The output of an invocation, in colours if the terminal has them and they are wanted. -/
def Invocation.run (i : Invocation) (w : Workspace) (colourTerminal : Bool) :
    Except Failure String := do
  let config ← w.config i.config
  w.run config (colourTerminal && !i.plainText) i.request

end TableSql
