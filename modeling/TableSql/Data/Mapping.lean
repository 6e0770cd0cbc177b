import TableSql.Data.JsonFormat
import TableSql.Import

/-!
# Mappings as data

* `Mapping.read?` — a mapping from a record with its source spelled out.
* `Mapping.Entry.read?` — an entry of a mapping file.
* `Mapping.toJson` — the record of a mapping.
-/

set_option autoImplicit false

namespace TableSql

variable {ν : Type}

/-- A source, given as one field that is named for the kind of source. -/
def Source.read? (format : DataFormat ν) (value : ν) : Option Source := do
  match ← format.fields? [] value with
  | [("source_header", name)] => (format.text? name).map .header
  | [("literal", text)] => (format.text? text).map .literal
  | _ => none

def Source.toJson : Source → Json
  | header name => .object [("source_header", .string name)]
  | literal value => .object [("literal", .string value)]

namespace Mapping

def read? (format : DataFormat ν) (value : ν) : Option Mapping := do
  let fields ← format.fields? [["column"], ["source"]] value
  let column ← Fields.required? ["column"] format.text? fields
  let source ← Fields.optional? format ["source"] (Source.read? format) fields
  return { column, source }

def toJson (m : Mapping) : Json :=
  .object [("column", .string m.column),
    ("source", match m.source with | some source => source.toJson | none => .null)]

/-- An entry of a mapping file from a record. -/
def Entry.read? (format : DataFormat ν) (value : ν) : Option Entry := do
  let fields ← format.fields? [["column"], ["header"], ["literal"]] value
  let column ← Fields.required? ["column"] format.text? fields
  let header ← Fields.optional? format ["header"] format.text? fields
  let literal ← Fields.optional? format ["literal"] format.text? fields
  return { column, header, literal }

end Mapping

end TableSql
