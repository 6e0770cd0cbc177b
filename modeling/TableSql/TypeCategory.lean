import TableSql.Text.Blank
import TableSql.Text.Case

/-!
# Kinds of column types

* `TypeCategory` — what a column of a type holds, as far as sample values and keys need to know.
* `TypeCategory.ofType` — the category of a type's name, whatever its letter case.
-/

set_option autoImplicit false

namespace TableSql

/-- What a column of a type holds. -/
inductive TypeCategory where
  | integer
  | fractional
  | dateTime
  | date
  | other
  deriving DecidableEq, Repr

namespace TypeCategory

/-- The form in which the name of a type is compared. -/
def typeKey (typeName : String) : String := Text.asciiLower (Text.strip typeName)

def ofType (typeName : String) : TypeCategory :=
  match typeKey typeName with
  | "int" | "integer" | "bigint" | "smallint" | "mediumint" | "tinyint" => integer
  | "decimal" | "numeric" | "double" | "float" | "real" => fractional
  | "datetime" => dateTime
  | "date" => date
  | _ => other

def isInteger : TypeCategory → Bool
  | integer => true
  | _ => false

def isNumeric : TypeCategory → Bool
  | integer | fractional => true
  | _ => false

def isTemporal : TypeCategory → Bool
  | dateTime | date => true
  | _ => false

end TypeCategory

end TableSql
