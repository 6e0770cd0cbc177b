import TableSql.Json
import TableSql.Dialect
import TableSql.Table

/-!
# Importing a sheet

* `Sheet` — rows of cells below headers; a cell holds any JSON value.
* `Sheet.ofGrid` — the sheet of a grid of texts, whose first row holds the headers.
* `Source`, `Mapping` — where an import takes the values of a column from.
* `Mapping.ofEntry` — the mapping that an entry of a mapping file stands for.
* `Table.autoMap` — for each column, the header that is spelled like its name, whatever the letter
  case and the underscores.
* `Table.bindings` — the columns that an import fills, and where each value of a row comes from.
* `Table.importStatement` — one INSERT with a tuple for each row that has a cell.
-/

set_option autoImplicit false

namespace TableSql

/-! ## Sheets -/

/-- Rows of cells below headers. A row may be shorter or longer than the headers. -/
structure Sheet where
  headers : List String := []
  rows : List (List Json) := []

namespace Sheet

/-- The place of the first header of a name. -/
def headerIndex? (s : Sheet) (name : String) : Option Nat := s.headers.findIdx? (· == name)

/-- The cell for a text of a grid. An empty text is no value. -/
def cellOfText (text : String) : Json := if text = "" then .null else .string text

/-- The sheet of a grid: the first row, stripped, holds the headers. -/
def ofGrid : List (List String) → Sheet
  | [] => {}
  | headers :: rows =>
    { headers := headers.map Text.strip, rows := rows.map fun row => row.map cellOfText }

end Sheet

/-! ## Mappings -/

/-- Where the values of a column come from. -/
inductive Source where
  /-- From the cells below a header. -/
  | header (name : String)
  /-- The same text in every row. -/
  | literal (value : String)
  deriving DecidableEq, Repr

/-- Where an import takes the values of a column from. -/
structure Mapping where
  column : String
  source : Option Source := none
  deriving DecidableEq, Repr

namespace Mapping

/-- Is there anything to take values from? An empty header or text counts as nothing. -/
def isActive (m : Mapping) : Bool :=
  match m.source with
  | some (.header name) => name ≠ ""
  | some (.literal value) => value ≠ ""
  | none => false

/-- An entry of a mapping file. -/
structure Entry where
  column : String
  header : Option String := none
  literal : Option String := none
  deriving DecidableEq, Repr

/-- The mapping of an entry. A text that is not empty goes before a header. -/
def ofEntry (e : Entry) : Mapping :=
  { column := e.column
    source := ((nonEmpty? e.literal).map .literal).or ((nonEmpty? e.header).map .header) }

end Mapping

def withoutUnderscores (s : String) : String := String.ofList (s.toList.filter (· ≠ '_'))

/-- Is a header spelled like a column's name, whatever the letter case and the underscores? -/
def sameSpelling (column header : String) : Bool :=
  let column := Text.lower column
  let header := Text.lower header
  header == column || withoutUnderscores header == withoutUnderscores column

namespace Table

/-- For each column the first header that is spelled like its name. -/
def autoMap (t : Table) (headers : List String) : List Mapping :=
  t.columns.map fun c =>
    { column := c.name, source := (headers.find? (sameSpelling c.name)).map .header }

end Table

/-! ## The statement -/

/-- Where the value of a column in a row comes from. -/
inductive Binding where
  | literal (value : String)
  /-- The cell at a place of the row, if the sheet has the header. -/
  | cell (index : Option Nat)
  deriving DecidableEq, Repr

/-- The binding of a source in a sheet. -/
def Sheet.bind (s : Sheet) : Source → Binding
  | .literal value => .literal value
  | .header name => .cell (s.headerIndex? name)

/-- The text of a cell: a string as it is, any other value as JSON. -/
def cellText : Json → String
  | .string s => s
  | value => value.compact

/-- The value of a binding in a row; `none` is no value. -/
def Binding.value? (row : List Json) : Binding → Option String
  | .literal value => some value
  | .cell index =>
    match index.bind (row[·]?) with
    | none | some .null => none
    | some value => some (cellText value)

/-- A value in a statement. -/
def valueText : Option String → String
  | some value => quoteText value
  | none => "NULL"

/-- The first active mapping of a column. -/
def activeMapping? (mappings : List Mapping) (column : String) : Option Mapping :=
  mappings.find? fun m => m.column == column && m.isActive

namespace Table

/-- The columns that an import fills, in the order of the table. -/
def bindings (t : Table) (mappings : List Mapping) (s : Sheet) : List (String × Binding) :=
  t.columns.filterMap fun c =>
    ((activeMapping? mappings c.name).bind (·.source)).map fun source => (c.name, s.bind source)

def importTuple (bindings : List (String × Binding)) (row : List Json) : String :=
  "(" ++ ", ".intercalate (bindings.map fun (_, b) => valueText (b.value? row)) ++ ")"

/-- The INSERT that brings the rows of a sheet into a table. -/
def importStatement (d : Dialect) (t : Table) (mappings : List Mapping) (s : Sheet) : String :=
  let bindings := t.bindings mappings s
  let rows := s.rows.filter (!·.isEmpty)
  if bindings.isEmpty then "-- No mappings configured"
  else
    "-- Import to " ++ t.name ++ "\n" ++
      if rows.isEmpty then "-- No data found"
      else
        "INSERT INTO " ++ quoteName d t.name ++ " (" ++ quoteNames d (bindings.map (·.1)) ++
          ") VALUES\n" ++ ",\n".intercalate (rows.map (importTuple bindings)) ++ ";"

end Table

end TableSql
