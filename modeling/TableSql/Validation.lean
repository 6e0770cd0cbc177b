import TableSql.Ddl.CreateTable

/-!
# Checking a table

* `Defect`, `Warning`, `Report` — what a check finds.
* `Table.check` — defects that spoil every statement, and doubts about names and dialects.
-/

set_option autoImplicit false

namespace TableSql

inductive Defect where
  | refused (error : TableError)
  | blankName (what : String)
  deriving DecidableEq, Repr

def Defect.message : Defect → String
  | refused error => error.message
  | blankName what => s!"Blank identifier: {what}"

inductive WarningKind where
  | dialectSpecific
  | duplicate
  deriving DecidableEq, Repr

structure Warning where
  kind : WarningKind
  message : String
  column : Option String := none
  deriving DecidableEq, Repr

/-- A doubt as one line. -/
def Warning.line (w : Warning) : String :=
  match w.column with
  | some column => s!"Warning: {w.message} (column: {column})"
  | none => s!"Warning: {w.message}"

structure Report where
  defects : List Defect := []
  warnings : List Warning := []
  deriving DecidableEq, Repr

namespace Report

def isValid (r : Report) : Bool := r.defects.isEmpty

/-- The findings of one report and then those of another. -/
def append (a b : Report) : Report := ⟨a.defects ++ b.defects, a.warnings ++ b.warnings⟩

instance : Append Report := ⟨append⟩

def ofDefect (d : Defect) : Report := { defects := [d] }

def ofWarning (w : Warning) : Report := { warnings := [w] }

end Report

/-- The findings about columns, given the names before them and the number of the first one. -/
def checkNames (before : List String) (position : Nat) : List Column → Report
  | [] => {}
  | c :: cs =>
    if Text.isBlankText c.name then
      Report.ofDefect (.blankName s!"column #{position} has no name") ++
        checkNames before (position + 1) cs
    else
      let here : Report :=
        if before.contains c.name then
          Report.ofWarning ⟨.duplicate, "Duplicate column name", some c.name⟩
        else {}
      here ++ checkNames (c.name :: before) (position + 1) cs

namespace Table

/-- The doubts about a table in one dialect. -/
def dialectWarnings (d : Dialect) (t : Table) : List Warning :=
  match d with
  | .doris =>
    if (t.column? dorisKeyColumn).isNone then
      [⟨.dialectSpecific, "Doris UNIQUE KEY and DISTRIBUTED BY HASH always reference '" ++
        dorisKeyColumn ++ "', which is not a column of '" ++ t.name ++ "'", none⟩]
    else []
  | .mysql =>
    if t.keyColumns.length > 1 then
      [⟨.dialectSpecific, toString t.keyColumns.length ++ " primary key columns will each be " ++
        "marked AUTO_INCREMENT; MySQL allows only one", none⟩]
    else []
  | .postgresql | .oracle | .sqlserver => []

/-- Checks a table for a dialect. Without columns there is nothing else to look at. -/
def check (d : Dialect) (t : Table) : Report :=
  let name : Report :=
    if Text.isBlankText t.name then Report.ofDefect (.blankName "table name is empty") else {}
  name ++
    if t.columns.isEmpty then Report.ofDefect (.refused (.noColumns t.name))
    else checkNames [] 1 t.columns ++ { warnings := t.dialectWarnings d }

end Table

end TableSql
