import TableSql.Config
import TableSql.Data.JsonFormat

/-!
# Configurations as data

* `GridTemplate.read?`, `NamedTemplate.read?`, `Config.read?` — from a record of any data format.
* `GridTemplate.toJson`, `NamedTemplate.toJson`, `Config.toJson` — the record with all fields.
-/

set_option autoImplicit false

namespace TableSql

variable {ν : Type}

namespace GridTemplate

/-- A template from the fields of a record. -/
def ofFields? (format : DataFormat ν) (fields : List (String × ν)) : Option GridTemplate := do
  let startRow ← Fields.required? ["data_start_row"] format.word64? fields
  let nameColumn ← Fields.required? ["name_col"] format.text? fields
  let typeColumn ← Fields.required? ["type_col"] format.text? fields
  let commentColumn ← Fields.optional? format ["comment_col"] format.text? fields
  let keyColumn ← Fields.optional? format ["pk_col"] format.text? fields
  return { startRow, nameColumn, typeColumn, commentColumn, keyColumn }

/-- The names of a template's fields, in order. -/
def fieldNames : List (List String) :=
  [["data_start_row"], ["name_col"], ["type_col"], ["comment_col"], ["pk_col"]]

def read? (format : DataFormat ν) (value : ν) : Option GridTemplate := do
  ofFields? format (← format.fields? fieldNames value)

/-- The fields of a template's record. -/
def toFields (t : GridTemplate) : List (String × Json) :=
  [("data_start_row", Json.ofNat t.startRow.toNat), ("name_col", .string t.nameColumn),
    ("type_col", .string t.typeColumn), ("comment_col", .ofText? t.commentColumn),
    ("pk_col", .ofText? t.keyColumn)]

def toJson (t : GridTemplate) : Json := .object t.toFields

end GridTemplate

namespace NamedTemplate

/-- The names of a named template's fields, in order. -/
def fieldNames : List (List String) := [["name"], ["description"]] ++ GridTemplate.fieldNames

def read? (format : DataFormat ν) (value : ν) : Option NamedTemplate := do
  let fields ← format.fields? fieldNames value
  let name ← Fields.required? ["name"] format.text? fields
  let description ← Fields.optional? format ["description"] format.text? fields
  let layout ← GridTemplate.ofFields? format fields
  return { name, description, layout }

def toJson (t : NamedTemplate) : Json :=
  .object ([("name", .string t.name), ("description", .ofText? t.description)] ++ t.layout.toFields)

end NamedTemplate

namespace Config

/-- The names of a configuration's fields, in order. -/
def fieldNames : List (List String) :=
  [["version"], ["dialect"], ["templates"], ["default_template"]]

def dialect? (format : DataFormat ν) (value : ν) : Option Dialect :=
  (format.word? "Dialect" value).bind Dialect.ofName?

/-- A configuration from a record; every field has a default. -/
def read? (format : DataFormat ν) (value : ν) : Option Config := do
  let fields ← format.fields? fieldNames value
  let d : Config := {}
  let version ← Fields.withDefault? ["version"] d.version format.text? fields
  let dialect ← Fields.withDefault? ["dialect"] d.dialect (dialect? format) fields
  let templates ←
    Fields.withDefault? ["templates"] d.templates (format.list? (NamedTemplate.read? format)) fields
  let defaultTemplate ←
    Fields.withDefault? ["default_template"] d.defaultTemplate format.text? fields
  return { version, dialect, templates, defaultTemplate }

def toJson (c : Config) : Json :=
  .object [("version", .string c.version), ("dialect", .string c.dialect.name),
    ("templates", .array (c.templates.map NamedTemplate.toJson)),
    ("default_template", .string c.defaultTemplate)]

end Config

end TableSql
