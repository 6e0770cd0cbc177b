import TableSql.Csv
import TableSql.Data.Config
import TableSql.Data.Mapping
import TableSql.Data.Table
import TableSql.Data.YamlFormat
import TableSql.Failure
import TableSql.Import

/-!
# Files

* `FileText` — what is found under a path.
* `FileText.table`, `FileText.mappings`, `FileText.grid`, `FileText.sheet`, `FileText.config` — what a
  file of each kind holds.
* `Path.stem?` — the name of a file without its extension.
-/

set_option autoImplicit false

namespace TableSql

/-- What is found under a path. -/
inductive FileText where
  | text (content : String)
  | missing
  | unreadable (reason : String)
  deriving DecidableEq, Repr

/-- The reason for which bytes are no text. -/
def notUtf8 : String := "stream did not contain valid UTF-8"

namespace FileText

def ofBytes (bytes : ByteArray) : FileText :=
  match String.fromUTF8? bytes with
  | some content => text content
  | none => unreadable notUtf8

def content (path : String) : FileText → Except Failure String
  | text content => .ok content
  | missing => .error { cause := .missingFile path }
  | unreadable reason => .error { cause := .unreadableFile path reason }

/-- What a YAML text holds, read as a record or list. -/
def ofYaml {α : Type} (read : Yaml.Node → Option α) (context content : String) :
    Except Failure α :=
  match (Yaml.Node.parse? content).bind read with
  | some value => .ok value
  | none => .error ⟨[context], .malformed⟩

def table (path : String) (f : FileText) : Except Failure Table := do
  ofYaml (Table.read? Yaml.Node.format) s!"Failed to parse table schema: {path}" (← f.content path)

def mappings (path : String) (f : FileText) : Except Failure (List Mapping) := do
  let entries ← ofYaml (Yaml.Node.format.list? (Mapping.Entry.read? Yaml.Node.format))
    s!"Failed to parse mapping file: {path}" (← f.content path)
  return entries.map Mapping.ofEntry

def grid (path : String) (f : FileText) : Except Failure (List (List String)) := do
  return Csv.parse (← f.content path)

def sheet (path : String) (f : FileText) : Except Failure Sheet := do
  return Sheet.ofGrid (← f.grid path)

end FileText

/-- The configuration that a text holds. -/
def Config.parse (content : String) : Except Failure Config :=
  FileText.ofYaml (Config.read? Yaml.Node.format) "Failed to parse config file" content

/-- The configuration that a file holds, if it has no fault. -/
def FileText.config (path : String) (f : FileText) : Except Failure Config := do
  let config ← Config.parse (← f.content path)
  match config.check? with
  | .ok () => return config
  | .error fault => throw ⟨[s!"Invalid config file: {path}"], .config fault⟩

namespace Path

/-- The parts of a path that are not empty and do not stand for the directory itself. -/
def parts (path : String) : List String :=
  ((path.toList.splitOn '/').map String.ofList).filter fun part => part ≠ "" && part ≠ "."

/-- The name of a file without its extension. A point at the start belongs to the name. -/
def stemOf (name : String) : String :=
  match name.toList.reverse.span (· ≠ '.') with
  | (_, '.' :: stem) => if stem.isEmpty then name else String.ofList stem.reverse
  | _ => name

/-- The name of the file that a path leads to, without its extension. -/
def stem? (path : String) : Option String :=
  match (parts path).getLast? with
  | some name => if name = ".." then none else some (stemOf name)
  | none => none

/-- A path from a directory; a path from the root is left as it is. -/
def fromDirectory (directory path : String) : String :=
  if path.toList.head? = some '/' then path
  else if directory.toList.getLast? = some '/' then directory ++ path
  else directory ++ "/" ++ path

end Path

end TableSql
