import TableSql.Ddl.CreateTable

/-!
# Sample statements

* `DmlKind` — the statements that read and change rows.
* `Table.sample?` — a statement of each kind for a table, with sample values, to be filled in.

The statements refuse a table without columns.
-/

set_option autoImplicit false

namespace TableSql

/-- The statements that read and change rows. -/
inductive DmlKind where
  | select
  | insert
  | update
  | delete
  deriving DecidableEq, Repr

namespace DmlKind

def name : DmlKind → String
  | select => "select"
  | insert => "insert"
  | update => "update"
  | delete => "delete"

/-- The form in which a user's word for a kind is compared. -/
def normalized (text : String) : String := Text.asciiLower (Text.strip text)

/-- The kind that a user's word means. -/
def parse? (text : String) : Option DmlKind :=
  match normalized text with
  | "select" => some select
  | "insert" => some insert
  | "update" => some update
  | "delete" => some delete
  | _ => none

theorem parse?_name (kind : DmlKind) : parse? kind.name = some kind := by
  cases kind <;> decide

end DmlKind

namespace Column

def insertSample (c : Column) : String :=
  if c.category.isNumeric then "0"
  else if c.category.isTemporal then "'2024-01-01 12:00:00'"
  else "'test_value'"

def updateSample (c : Column) : String :=
  match c.category with
  | .integer => "1"
  | .dateTime => "NOW()"
  | _ => "'new_value'"

end Column

namespace Table

/-- The columns for which INSERT gives values: MySQL numbers the key itself. -/
def insertColumns (d : Dialect) (t : Table) : List Column :=
  t.columns.filter fun c => !(d == .mysql && c.isKey)

/-- The columns that UPDATE sets: the first three that neither tell rows apart nor record when a row
was made. -/
def updateColumns (t : Table) (key : Column) : List Column :=
  (t.columns.filter fun c => !c.isKey && c.name != key.name && c.name != "created_at").take 3

/-- SELECT of the first hundred rows. -/
def selectStatement (d : Dialect) (t : Table) : String :=
  "SELECT\n  " ++ quoteNames d t.columnNames ++ "\nFROM " ++ quoteName d t.name ++ "\nLIMIT 100;"

def insertStatement (d : Dialect) (t : Table) : String :=
  let columns := t.insertColumns d
  "INSERT INTO " ++ quoteName d t.name ++ "\n(" ++ quoteNames d (columns.map (·.name)) ++
    ")\nVALUES\n(" ++ ", ".intercalate (columns.map (·.insertSample)) ++ ");"

/-- UPDATE of the row with the key 1. -/
def updateStatement (d : Dialect) (t : Table) (key : Column) : String :=
  let assignments := (t.updateColumns key).map fun c =>
    "  " ++ quoteName d c.name ++ " = " ++ c.updateSample
  "UPDATE " ++ quoteName d t.name ++ "\nSET\n" ++ ",\n".intercalate assignments ++ "\nWHERE " ++
    quoteName d key.name ++ " = 1;"

/-- DELETE of the row with the key 1. -/
def deleteStatement (d : Dialect) (t : Table) (key : Column) : String :=
  "DELETE FROM " ++ quoteName d t.name ++ "\nWHERE " ++ quoteName d key.name ++ " = 1;"

/-- A sample statement for a table that has columns. -/
def sample? (kind : DmlKind) (d : Dialect) (t : Table) : Except TableError String :=
  match t.keyColumn? with
  | none => .error (.noColumns t.name)
  | some key => .ok <|
    match kind with
    | .select => t.selectStatement d
    | .insert => t.insertStatement d
    | .update => t.updateStatement d key
    | .delete => t.deleteStatement d key

theorem exists_sample? (kind : DmlKind) (d : Dialect) {t : Table} (h : t.columns ≠ []) :
    ∃ s, t.sample? kind d = .ok s := by
  unfold sample?
  cases hkey : t.keyColumn? with
  | none => exact absurd (t.keyColumn?_eq_none_iff.1 hkey) h
  | some key => exact ⟨_, rfl⟩

theorem sample?_eq_error (kind : DmlKind) (d : Dialect) {t : Table} (h : t.columns = []) :
    t.sample? kind d = .error (.noColumns t.name) := by
  unfold sample?
  rw [t.keyColumn?_eq_none_iff.2 h]

end Table

end TableSql
