import TableSql.Data.JsonFormat
import TableSql.Table

/-!
# Tables as data

* `Column.read?`, `Table.read?` — a column or table from a record of any data format.
* `Column.toJson`, `Table.toJson` — the record with all fields under their first names.
-/

set_option autoImplicit false

namespace TableSql

variable {ν : Type}

namespace Column

/-- The names of the field for the type. -/
def typeNames : List String := ["type", "native_type"]

/-- The names of the field that tells keys from other columns. -/
def keyNames : List String := ["is_primary_key", "primary_key"]

/-- The names of the field for the default. -/
def defaultNames : List String := ["default_value", "default"]

/-- The names of a column's fields, in order. -/
def fieldNames : List (List String) :=
  [["name"], typeNames, ["length"], ["scale"], ["nullable"], keyNames, defaultNames, ["comment"]]

def read? (format : DataFormat ν) (value : ν) : Option Column := do
  let fields ← format.fields? fieldNames value
  let name ← Fields.required? ["name"] format.text? fields
  let typeName ← Fields.required? typeNames format.text? fields
  let length ← Fields.optional? format ["length"] format.word32? fields
  let scale ← Fields.optional? format ["scale"] format.word32? fields
  let nullable ← Fields.withDefault? ["nullable"] true format.flag? fields
  let isKey ← Fields.withDefault? keyNames false format.flag? fields
  let default? ← Fields.optional? format defaultNames format.text? fields
  let comment ← Fields.optional? format ["comment"] format.text? fields
  return { name, typeName, length, scale, nullable, isKey, default?, comment }

/-- A number or nothing as a JSON value. -/
def wordJson : Option UInt32 → Json
  | some n => Json.ofNat n.toNat
  | none => .null

def toJson (c : Column) : Json :=
  .object [("name", .string c.name), ("type", .string c.typeName), ("length", wordJson c.length),
    ("scale", wordJson c.scale), ("nullable", .bool c.nullable), ("is_primary_key", .bool c.isKey),
    ("default_value", .ofText? c.default?), ("comment", .ofText? c.comment)]

end Column

namespace Table

/-- The names of the field for the engine. -/
def engineNames : List String := ["engine_hint", "engine"]

/-- The names of a table's fields, in order. -/
def fieldNames : List (List String) := [["name"], ["columns"], engineNames, ["comment"]]

def read? (format : DataFormat ν) (value : ν) : Option Table := do
  let fields ← format.fields? fieldNames value
  let name ← Fields.required? ["name"] format.text? fields
  let columns ← Fields.withDefault? ["columns"] [] (format.list? (Column.read? format)) fields
  let engine ← Fields.optional? format engineNames format.text? fields
  let comment ← Fields.optional? format ["comment"] format.text? fields
  return { name, columns, engine, comment }

def toJson (t : Table) : Json :=
  .object [("name", .string t.name), ("columns", .array (t.columns.map Column.toJson)),
    ("engine_hint", .ofText? t.engine), ("comment", .ofText? t.comment)]

end Table

end TableSql
