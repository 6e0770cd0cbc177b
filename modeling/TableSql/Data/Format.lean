import TableSql.Table

/-!
# Records in a data format

* `DataFormat` — how a data format shows records, lists and plain values.
* `find?`, `required?`, `withDefault?`, `optional?` — the value of a field, under any of its names.

A field may be given once only, under one of its names. Fields of unknown names are left alone.
-/

set_option autoImplicit false

namespace TableSql

/-- How a data format shows records, lists and plain values. -/
structure DataFormat (ν : Type) where
  /-- The fields of a record, given the names of each field that is asked for. Fields without names
  come in that order. -/
  fields? : List (List String) → ν → Option (List (String × ν))
  /-- The items of a list. -/
  items? : ν → Option (List ν)
  /-- A text. -/
  text? : ν → Option String
  /-- One of the words of a kind. -/
  word? : String → ν → Option String
  /-- A natural number. -/
  nat? : ν → Option Nat
  /-- A truth value. -/
  flag? : ν → Option Bool
  /-- Is a value that may be left out given as nothing? -/
  isNull : ν → Bool

namespace Fields

variable {ν α : Type}

/-- The value of the field with one of some names: refused if it is given twice, nothing if it is
not given. -/
def find? (names : List String) (fields : List (String × ν)) : Option (Option ν) :=
  match fields.filter fun field => names.contains field.1 with
  | [] => some none
  | [field] => some (some field.2)
  | _ => none

/-- The value of a field that must be given. -/
def required? (names : List String) (read : ν → Option α) (fields : List (String × ν)) :
    Option α := do
  let given ← find? names fields
  read (← given)

/-- The value of a field that has a default. -/
def withDefault? (names : List String) (default : α) (read : ν → Option α)
    (fields : List (String × ν)) : Option α := do
  match ← find? names fields with
  | none => some default
  | some value => read value

/-- The value of a field that may be left out or given as nothing. -/
def optional? (format : DataFormat ν) (names : List String) (read : ν → Option α)
    (fields : List (String × ν)) : Option (Option α) := do
  match ← find? names fields with
  | none => some none
  | some value => if format.isNull value then some none else (read value).map some

end Fields

namespace DataFormat

variable {ν α : Type}

def list? (format : DataFormat ν) (read : ν → Option α) (value : ν) : Option (List α) := do
  let items ← format.items? value
  items.mapM read

def word32? (format : DataFormat ν) (value : ν) : Option UInt32 :=
  (format.nat? value).bind TableSql.word32?

def word64? (format : DataFormat ν) (value : ν) : Option UInt64 :=
  (format.nat? value).bind fun n => if n < UInt64.size then some (UInt64.ofNat n) else none

end DataFormat

end TableSql
