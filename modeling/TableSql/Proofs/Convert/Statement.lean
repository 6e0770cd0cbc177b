import TableSql.Convert.Statement
import TableSql.Proofs.Convert.ColumnComments
import TableSql.Proofs.Convert.TypeName

/-!
# The statements of a conversion

Both conversions write the comment of the table into an otherwise fixed statement. Up to that place
the statement comments on columns only.

* `Column.Quiet`, `Table.Quiet` — names, types and comments of columns without the words that the
  search for a table's comment looks for.
* `Table.mysqlHead`, `Table.dorisHead` — the statement up to the place of the table's comment.
* `Table.mysqlWith`, `Table.dorisWith` — the statement with a given comment.

Principal results: `columnComments_mysqlHead` and `columnComments_dorisHead`.
-/

set_option autoImplicit false

namespace TableSql

/-! ## Quiet tables -/

/-- A column whose name, type and comment are quiet, and whose name closes no parenthesis. -/
structure Column.Quiet (c : Column) : Prop where
  name : TableSql.Quiet c.name
  noClosing : ')' ∉ c.name.toList
  typeName : TableSql.Quiet c.typeName
  comment : ∀ text ∈ c.comment, TableSql.Quiet text

/-- A table whose name and columns are quiet; its own comment may be anything. -/
structure Table.Quiet (t : Table) : Prop where
  name : TableSql.Quiet t.name
  columns : ∀ c ∈ t.columns, c.Quiet

instance (c : Column) : Decidable c.Quiet :=
  decidable_of_iff (TableSql.Quiet c.name ∧ ')' ∉ c.name.toList ∧ TableSql.Quiet c.typeName ∧
      ∀ text ∈ c.comment, TableSql.Quiet text)
    ⟨fun ⟨name, noClosing, typeName, comment⟩ => ⟨name, noClosing, typeName, comment⟩,
      fun h => ⟨h.name, h.noClosing, h.typeName, h.comment⟩⟩

instance (t : Table) : Decidable t.Quiet :=
  decidable_of_iff (TableSql.Quiet t.name ∧ ∀ c ∈ t.columns, c.Quiet)
    ⟨fun ⟨name, columns⟩ => ⟨name, columns⟩, fun h => ⟨h.name, h.columns⟩⟩

/-! ## Types -/

theorem LengthText.silent {s : String} (h : LengthText s) : Silent s :=
  h.induction (by decide) .append (by decide) (by decide) (by decide) .number

theorem wordless_dorisTypes : ∀ type ∈ dorisTypes, Wordless type := by decide

namespace Column.Quiet

variable {c : Column}

/-- The length and scale of a type add no word to it. -/
theorem wordless_typeText (h : c.Quiet) : Wordless c.typeText := by
  obtain ⟨length, hlength, htype⟩ := c.exists_typeText_eq
  rw [htype]
  exact h.typeName.strip.upper.wordless.append hlength.silent

theorem wordless_dorisType (h : c.Quiet) : Wordless c.dorisType := by
  rcases c.dorisType_mem_or_eq with hmem | ⟨-, htype⟩
  · exact wordless_dorisTypes _ hmem
  · rw [htype]
    exact h.wordless_typeText

theorem wordless_mysqlType (h : c.Quiet) : Wordless c.mysqlType := by
  unfold Column.mysqlType
  split
  · decide
  · decide
  · exact h.wordless_typeText

theorem wordless_commentText (h : c.Quiet) {text : String} (ht : c.commentText = some text) :
    Wordless text := by
  exact (h.comment text (nonEmpty?_eq_some_iff.1 ht).1).wordless

end Column.Quiet

/-! ## Pieces -/

namespace ColumnComments

variable {a b : String} {texts : List String}

theorem append_silent (ha : ColumnComments a texts) (hb : Silent b) :
    ColumnComments (a ++ b) texts := by
  have := ha.append (.silent hb)
  rwa [List.append_nil] at this

theorem silent_append (ha : Silent a) (hb : ColumnComments b texts) :
    ColumnComments (a ++ b) texts :=
  (ColumnComments.silent ha).append hb

theorem intercalate {sep : String} (hsep : Silent sep) {pieces : List String}
    {textss : List (List String)} (h : List.Forall₂ ColumnComments pieces textss) :
    ColumnComments (sep.intercalate pieces) textss.flatten :=
  Text.intercalate_forall₂ (.silent (by decide)) (fun ha hb => (ha.append_silent hsep).append hb) h

end ColumnComments

theorem silent_quoteNames (d : Dialect) {names : List String} (h : ∀ name ∈ names, Wordless name) :
    Silent (quoteNames d names) :=
  quoteNames_induction (by decide) (fun ha hb => (ha.append (by decide)).append hb)
    fun name hname => .quoteName d (h name hname)

theorem columnComments_commentClause {c : Column} (h : c.Quiet) :
    ColumnComments ((c.commentText.map fun text => " COMMENT " ++ quoteText text).getD "")
      c.commentText.toList := by
  cases ht : c.commentText with
  | none => exact .silent (show Silent "" by decide)
  | some text => exact .column (h.wordless_commentText ht)

/-- CREATE TABLE without these two words. -/
def createBehind (d : Dialect) (table : String) (lines : List String) : String :=
  " " ++ quoteName d table ++ " (\n" ++ ",\n".intercalate (lines.map indented) ++ "\n)"

theorem createBody_eq (d : Dialect) (table : String) (lines : List String) :
    createBody d table lines = "CREATE TABLE" ++ createBehind d table lines := by
  have hwords : "CREATE TABLE " = "CREATE TABLE" ++ " " := by decide
  unfold createBody createBehind
  simp only [hwords, String.append_assoc]

theorem columnComments_createBehind (d : Dialect) {table : String} {lines : List String}
    {textss : List (List String)} (htable : Wordless table)
    (hlines : List.Forall₂ ColumnComments (lines.map indented) textss) :
    ColumnComments (createBehind d table lines) textss.flatten := by
  have hopen : Silent (" " ++ quoteName d table ++ " (\n") :=
    ((show Silent " " by decide).append (.quoteName d htable)).append (by decide)
  have hall := ColumnComments.intercalate (show Silent ",\n" by decide) hlines
  exact (ColumnComments.silent_append hopen hall).append_silent (by decide)

namespace Table.Quiet

variable {t : Table}

theorem wordless_keyNames (h : t.Quiet) : ∀ name ∈ t.keyNames, Wordless name := by
  intro name hname
  obtain ⟨c, hc, rfl⟩ := Table.exists_column_of_mem_keyNames hname
  exact (h.columns c hc).name.wordless

theorem columnComments_keyLine (d : Dialect) (h : t.Quiet) :
    ∃ textss, List.Forall₂ ColumnComments ((t.keyLine "" d).toList.map indented) textss ∧
      textss.flatten = [] := by
  unfold Table.keyLine
  split
  · exact ⟨[], .nil, rfl⟩
  · have hnames : Silent (" (" ++ quoteNames d t.keyNames ++ ")") :=
      ((show Silent " (" by decide).append (silent_quoteNames d h.wordless_keyNames)).append
        (by decide)
    have hline : indented ("" ++ "PRIMARY KEY (" ++ quoteNames d t.keyNames ++ ")") =
        "  PRIMARY KEY" ++ (" (" ++ quoteNames d t.keyNames ++ ")") := by
      have hwords : "  PRIMARY KEY" ++ " (" = "  " ++ "PRIMARY KEY (" := by decide
      rw [← String.append_assoc, ← String.append_assoc, hwords]
      unfold indented
      simp only [String.empty_append, String.append_assoc]
    refine ⟨[[]], ?_, rfl⟩
    rw [Option.toList_some, List.map_cons, List.map_nil, hline]
    exact .cons (ColumnComments.primaryKey.append_silent hnames) .nil

/-- A statement whose lines comment on their columns, up to the closing parenthesis. -/
theorem columnComments_lines (d : Dialect) (h : t.Quiet) {line : Column → String}
    (hline : ∀ c ∈ t.columns, ColumnComments (indented (line c)) c.commentText.toList) :
    ColumnComments
      (createBehind d t.name (t.columns.map line ++ (t.keyLine "" d).toList))
      (t.columns.filterMap (·.commentText)) := by
  obtain ⟨textss, hkey, hflat⟩ := h.columnComments_keyLine d
  have hcolumns : List.Forall₂ ColumnComments ((t.columns.map line).map indented)
      (t.columns.map (·.commentText.toList)) := by
    rw [List.map_map, Text.forall₂_map_map]
    exact hline
  have hall := columnComments_createBehind d h.name.wordless
    (by rw [List.map_append]; exact List.rel_append hcolumns hkey)
  rw [List.flatten_append, hflat, List.append_nil] at hall
  rwa [List.filterMap_eq_flatMap_toList, List.flatMap_def]

end Table.Quiet

/-! ## The two statements -/

/-- The line of a column in a MySQL statement. -/
def Column.mysqlLine (c : Column) : String :=
  quoteName .mysql c.name ++ " " ++ c.mysqlType ++ (if c.nullable then " NULL" else " NOT NULL") ++
    c.commentSuffix

/-- The line of a column in a Doris statement. -/
def Column.dorisLine (c : Column) : String :=
  quoteName .doris c.name ++ " " ++ c.dorisType ++ c.commentSuffix

namespace Table

/-- The MySQL statement behind CREATE TABLE, up to the comment of the table. -/
def mysqlHead (t : Table) : String :=
  createBehind .mysql t.name (t.columns.map (·.mysqlLine) ++ (t.keyLine "" .mysql).toList) ++
    " ENGINE=InnoDB DEFAULT CHARSET=utf8mb4"

/-- The MySQL statement with a comment of the table, or with none. -/
def mysqlWith (t : Table) (comment : Option String) : String :=
  "CREATE TABLE" ++ t.mysqlHead ++
    (comment.map fun text => " COMMENT=" ++ quoteText text).getD "" ++ ";"

/-- The Doris statement behind CREATE TABLE, up to its key. -/
def dorisHead (t : Table) : String :=
  createBehind .doris t.name (t.keysFirst.map (·.dorisLine)) ++ " ENGINE = OLAP"

/-- The Doris statement with a comment of the table. -/
def dorisWith (t : Table) (comment : String) : String :=
  let keys := quoteNames .doris t.dorisKeys
  "CREATE TABLE" ++ t.dorisHead ++ "\nUNIQUE KEY(" ++ keys ++ ") COMMENT " ++ quoteText comment ++
    "\nDISTRIBUTED BY HASH(" ++ keys ++ ") BUCKETS " ++ dorisBuckets ++
    "\nPROPERTIES (\n  \"replication_num\" = \"1\",\n" ++
    "  \"enable_unique_key_merge_on_write\" = \"true\"\n);"

theorem toMysql_eq (t : Table) (source : String) :
    t.toMysql source = t.mysqlWith (t.resolvedComment source) := by
  unfold toMysql mysqlWith mysqlHead Column.mysqlLine
  simp only [createBody_eq, String.append_assoc]

theorem toDoris_eq (t : Table) (source : String) :
    t.toDoris source = t.dorisWith ((t.resolvedComment source).getD t.name) := by
  have hwords (rest : String) : " ENGINE = OLAP" ++ ("\nUNIQUE KEY(" ++ rest) =
      " ENGINE = OLAP\nUNIQUE KEY(" ++ rest := by
    rw [← String.append_assoc]
    rfl
  unfold toDoris dorisWith dorisHead Column.dorisLine
  simp only [createBody_eq, String.append_assoc, hwords]

end Table

/-- **A MySQL statement comments on columns only, up to the comment of the table.** -/
theorem columnComments_mysqlHead {t : Table} (h : t.Quiet) :
    ColumnComments t.mysqlHead (t.columns.filterMap (·.commentText)) := by
  refine (h.columnComments_lines .mysql fun c hc => ?_).append_silent (by decide)
  have hname : Silent ("  " ++ quoteName .mysql c.name) :=
    (show Silent "  " by decide).append (.quoteName .mysql (h.columns c hc).name.wordless)
  have htype := hname.append (.space (h.columns c hc).wordless_mysqlType)
  have hnull : Silent (if c.nullable then " NULL" else " NOT NULL") := by split <;> decide
  have := ColumnComments.silent_append (htype.append hnull)
    (columnComments_commentClause (h.columns c hc))
  simpa only [indented, Column.mysqlLine, Column.commentSuffix, String.append_assoc] using this

/-- **A Doris statement comments on columns only, up to its key.** -/
theorem columnComments_dorisHead {t : Table} (h : t.Quiet) :
    ∃ texts, ColumnComments t.dorisHead texts := by
  have hlines : List.Forall₂ ColumnComments ((t.keysFirst.map (·.dorisLine)).map indented)
      (t.keysFirst.map (·.commentText.toList)) := by
    rw [List.map_map, Text.forall₂_map_map]
    intro c hc
    have hquiet : c.Quiet := h.columns c (Table.mem_keysFirst.1 hc)
    have hname : Silent ("  " ++ quoteName .doris c.name) :=
      (show Silent "  " by decide).append (.quoteName .doris hquiet.name.wordless)
    have htype := hname.append (.space hquiet.wordless_dorisType)
    have := ColumnComments.silent_append htype (columnComments_commentClause hquiet)
    simpa only [Function.comp_apply, indented, Column.dorisLine, Column.commentSuffix,
      String.append_assoc] using this
  exact ⟨_, (columnComments_createBehind .doris h.name.wordless hlines).append_silent (by decide)⟩

end TableSql
