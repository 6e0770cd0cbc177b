import TableSql.Text.Blank
import TableSql.Text.Case
import TableSql.Text.Quoted

/-!
# Dialects

* `Dialect` — the database systems that statements are written for.
* `Dialect.parse?` — the dialect that a user means, whatever the letter case.
* `Dialect.ofName?` — the dialect that a written configuration names, letter for letter.
* `quoteName`, `quoteNames` — identifiers, in the quotes of a dialect.
* `escapeText`, `quoteText` — character literals, in single quotes in every dialect.

Main statements: `parse?_name` and `ofName?_name` (both read the name of a dialect).
-/

set_option autoImplicit false

namespace TableSql

/-- The database systems that statements are written for. -/
inductive Dialect where
  | mysql
  | postgresql
  | doris
  | oracle
  | sqlserver
  deriving DecidableEq, Repr, Inhabited

namespace Dialect

def name : Dialect → String
  | mysql => "mysql"
  | postgresql => "postgresql"
  | doris => "doris"
  | oracle => "oracle"
  | sqlserver => "sqlserver"

/-- Can a column's comment stand inside CREATE TABLE? -/
def hasInlineComments : Dialect → Bool
  | mysql | doris => true
  | postgresql | oracle | sqlserver => false

/-- The character around a quoted name. -/
def nameQuote : Dialect → Char
  | mysql | doris => '\x60'
  | postgresql | oracle | sqlserver => '"'

/-- The form in which a user's word for a dialect is compared. -/
def normalized (text : String) : String := Text.asciiLower (Text.strip text)

/-- The dialect that a user's word means. -/
def parse? (text : String) : Option Dialect :=
  match normalized text with
  | "mysql" => some mysql
  | "postgresql" | "postgres" | "pg" => some postgresql
  | "doris" => some doris
  | "oracle" => some oracle
  | "sqlserver" | "sql server" | "mssql" => some sqlserver
  | _ => none

/-- The dialect of a name in a configuration. -/
def ofName? : String → Option Dialect
  | "mysql" => some mysql
  | "postgresql" | "postgres" => some postgresql
  | "doris" => some doris
  | "oracle" => some oracle
  | "sqlserver" | "mssql" => some sqlserver
  | _ => none

theorem parse?_name (d : Dialect) : parse? d.name = some d := by
  cases d <;> decide

theorem ofName?_name (d : Dialect) : ofName? d.name = some d := by
  cases d <;> rfl

end Dialect

/-! ## Names and texts in a statement -/

/-- A name between the quotes of a dialect. -/
def quoteName (d : Dialect) (name : String) : String := Text.enclosed d.nameQuote name

theorem toList_quoteName (d : Dialect) (name : String) :
    (quoteName d name).toList = Text.enclosedChars d.nameQuote name.toList := by
  rw [quoteName, Text.enclosed, String.toList_ofList]

/-- Names between quotes, separated by commas. -/
def quoteNames (d : Dialect) (names : List String) : String :=
  ", ".intercalate (names.map (quoteName d))

/-- The inside of a character literal. -/
def escapeText (s : String) : String := String.ofList (Text.doubled '\'' s.toList)

/-- A character literal. -/
def quoteText (s : String) : String := Text.enclosed '\'' s

end TableSql
