import TableSql.Ddl.Clauses
import TableSql.Error

/-!
# CREATE TABLE

* `Table.createStatement` — the CREATE TABLE statement of a table, whatever its columns.
* `Table.create?` — the same, refused for a table without columns.

MySQL and Doris take comments inside the statement; the other dialects get one COMMENT ON statement
for each comment after it. Doris wants the columns of its key in front.
-/

set_option autoImplicit false

namespace TableSql

/-- The column by which Doris keeps rows apart and spreads them. -/
def dorisKeyColumn : String := "id"

/-- The number of buckets over which Doris spreads rows. -/
def dorisBuckets : String := "10"

/-- A line inside the parentheses of a statement. -/
def indented (line : String) : String := "  " ++ line

/-- The head of CREATE TABLE and its lines in parentheses. -/
def createBody (d : Dialect) (table : String) (lines : List String) : String :=
  "CREATE TABLE " ++ quoteName d table ++ " (\n" ++ ",\n".intercalate (lines.map indented) ++ "\n)"

namespace Table

/-- The quoted names of the primary key between parentheses, after some words. No key, no line. -/
def keyLine (words : String) (d : Dialect) (t : Table) : Option String :=
  if t.keyColumns.isEmpty then none
  else some (words ++ "PRIMARY KEY (" ++ quoteNames d t.keyNames ++ ")")

/-- The engine, character set and comment after a MySQL table. -/
def mysqlOptions (t : Table) : String :=
  let engine := ((t.engine.map Text.strip).filter (· ≠ "")).getD "InnoDB"
  " ENGINE=" ++ engine ++ " DEFAULT CHARSET=utf8mb4" ++
    (t.commentText.map fun text => " COMMENT=" ++ quoteText text).getD ""

/-- The engine, key and distribution after a Doris table. -/
def dorisOptions : String :=
  let key := quoteName .doris dorisKeyColumn
  "\nENGINE=OLAP\nUNIQUE KEY(" ++ key ++ ")\nDISTRIBUTED BY HASH(" ++ key ++ ") BUCKETS " ++
    dorisBuckets ++ "\nPROPERTIES (\n  \"replication_num\" = \"1\"\n)"

/-- The statements that give the columns and the table their comments. -/
def commentStatements (d : Dialect) (t : Table) : List String :=
  t.columns.filterMap (fun c => c.commentText.map fun text =>
    "COMMENT ON COLUMN " ++ quoteName d t.name ++ "." ++ quoteName d c.name ++ " IS " ++
      quoteText text ++ ";\n") ++
  (t.commentText.map fun text =>
    "COMMENT ON TABLE " ++ quoteName d t.name ++ " IS " ++ quoteText text ++ ";\n").toList

/-- CREATE TABLE with a named key constraint, and the comments after it. -/
def createWithComments (d : Dialect) (t : Table) : String :=
  let lines := t.columns.map (·.definition d) ++
    (t.keyLine ("CONSTRAINT pk_" ++ t.name ++ " ") d).toList
  let comments := t.commentStatements d
  createBody d t.name lines ++ ";" ++
    if comments.isEmpty then "" else "\n\n" ++ String.join comments

/-- The CREATE TABLE statement of a table in a dialect. -/
def createStatement (d : Dialect) (t : Table) : String :=
  match d with
  | .mysql =>
    createBody d t.name (t.columns.map (·.definition d) ++ (t.keyLine "" d).toList) ++
      t.mysqlOptions ++ ";"
  | .doris => createBody d t.name (t.keysFirst.map (·.definition d)) ++ dorisOptions ++ ";"
  | .postgresql | .oracle | .sqlserver => t.createWithComments d

/-- The refusal of a table without columns. -/
def requireColumns (t : Table) : Except TableError Unit :=
  if t.columns.isEmpty then .error (.noColumns t.name) else .ok ()

/-- The CREATE TABLE statement of a table that has columns. -/
def create? (d : Dialect) (t : Table) : Except TableError String := do
  t.requireColumns
  return t.createStatement d

theorem create?_eq_ok (d : Dialect) {t : Table} (h : t.columns ≠ []) :
    t.create? d = .ok (t.createStatement d) := by
  obtain ⟨c, cs, hcs⟩ := List.exists_cons_of_ne_nil h
  simp only [create?, requireColumns, hcs]
  rfl

theorem create?_eq_error (d : Dialect) {t : Table} (h : t.columns = []) :
    t.create? d = .error (.noColumns t.name) := by
  simp only [create?, requireColumns, h]
  rfl

theorem create?_eq_ok_iff {d : Dialect} {t : Table} {statement : String} :
    t.create? d = .ok statement ↔ t.columns ≠ [] ∧ statement = t.createStatement d := by
  by_cases h : t.columns = []
  · simp [create?_eq_error d h, h]
  · simp [create?_eq_ok d h, h, eq_comm]

end Table

end TableSql
