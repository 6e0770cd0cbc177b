import TableSql.Convert.CommentSearch
import TableSql.Convert.TypeName
import TableSql.Ddl.CreateTable
import TableSql.Text.Search

/-!
# Statements of MySQL and Doris for each other

* `detectDialect` — tells CREATE TABLE statements of Doris from those of MySQL by the clauses that
  only Doris has.
* `Table.toDoris`, `Table.toMysql` — the CREATE TABLE statement of the one dialect for a table of
  the other; the comment of the table is taken from the source statement if that has one.
* `Table.convert?` — the same for a given target, refused for other dialects.
-/

set_option autoImplicit false

namespace TableSql

/-- Clauses that only Doris has. -/
def dorisMarks : List String :=
  ["ENGINE=OLAP", "ENGINE = OLAP", "DISTRIBUTED BY HASH", "DUPLICATE KEY", "AGGREGATE KEY",
    "BUCKETS"]

/-- The dialect of a statement, whatever its letter case. A unique key speaks for Doris, unless the
engine is InnoDB. -/
def detectDialect (statement : String) : Dialect :=
  let upper := Text.upper statement
  if dorisMarks.any (Text.occursIn · upper) ||
      (Text.occursIn "UNIQUE KEY" upper && !Text.occursIn "ENGINE=INNODB" upper) then .doris
  else .mysql

/-- A column's comment after its type. -/
def Column.commentSuffix (c : Column) : String :=
  (c.commentText.map fun text => " COMMENT " ++ quoteText text).getD ""

namespace Table

/-- The comment of a table: that of the source statement, or else its own. -/
def resolvedComment (t : Table) (source : String) : Option String :=
  (findTableComment source).or t.commentText

/-- The columns by which Doris keeps rows apart. -/
def dorisKeys (t : Table) : List String :=
  if t.keyColumns.isEmpty then [dorisKeyColumn] else t.keyNames

/-- The Doris statement for a table of MySQL. -/
def toDoris (t : Table) (source : String) : String :=
  let lines := t.keysFirst.map fun c =>
    quoteName .doris c.name ++ " " ++ c.dorisType ++ c.commentSuffix
  let keys := quoteNames .doris t.dorisKeys
  createBody .doris t.name lines ++ " ENGINE = OLAP\nUNIQUE KEY(" ++ keys ++ ") COMMENT " ++
    quoteText ((t.resolvedComment source).getD t.name) ++ "\nDISTRIBUTED BY HASH(" ++ keys ++
    ") BUCKETS " ++ dorisBuckets ++ "\nPROPERTIES (\n  \"replication_num\" = \"1\",\n" ++
    "  \"enable_unique_key_merge_on_write\" = \"true\"\n);"

/-- The MySQL statement for a table of Doris. -/
def toMysql (t : Table) (source : String) : String :=
  let lines := t.columns.map fun c =>
    quoteName .mysql c.name ++ " " ++ c.mysqlType ++ (if c.nullable then " NULL" else " NOT NULL") ++
      c.commentSuffix
  createBody .mysql t.name (lines ++ (t.keyLine "" .mysql).toList) ++
    " ENGINE=InnoDB DEFAULT CHARSET=utf8mb4" ++
    ((t.resolvedComment source).map fun text => " COMMENT=" ++ quoteText text).getD "" ++ ";"

/-- The statement of a target dialect for a table of the other one. -/
def convert? (t : Table) (source : String) (target : Dialect) : Except TableError String := do
  t.requireColumns
  match target with
  | .doris => return t.toDoris source
  | .mysql => return t.toMysql source
  | other => throw (.unsupported other.name "MySQL/Doris DDL conversion")

end Table

end TableSql
