import TableSql.Dml
import TableSql.Proofs.Text.Reader
import TableSql.Proofs.Text.Scan

/-!
# What the sample statements say

* `Table.IsKeyColumn` — the column that tells rows apart, said without a search.
* `Table.listedColumns` — the columns that an INSERT names.
* `SampleValue`, `TypeCategory.sampleValue` — what is inserted into a column of a category.
* `SampleInsert`, `SampleInsert.read?` — one row for a table, and a reader of its statement.
* `Table.SampleNames` — the names that a scan finds in a sample statement.

Principal results: `keyColumn?_eq_some_iff`, `SampleInsert.read?_text` (whatever is written is read
back) and `sample_statements_name_columns` (the names in each of the four statements).
-/

set_option autoImplicit false

namespace TableSql

/-! ## The key column -/

/-- The column that tells the rows of a table apart: the first one of the primary key or, in a table
without a primary key, the first one of all. -/
inductive Table.IsKeyColumn (t : Table) (key : Column) : Prop
  | first (before behind : List Column) (columns : t.columns = before ++ key :: behind)
      (isKey : key.isKey = true) (noneBefore : ∀ c ∈ before, c.isKey = false)
  | head (behind : List Column) (columns : t.columns = key :: behind)
      (none : ∀ c ∈ t.columns, c.isKey = false)

theorem Table.keyColumn?_eq_some_iff (t : Table) (key : Column) :
    t.keyColumn? = some key ↔ t.IsKeyColumn key := by
  have hnone : t.columns.find? (·.isKey) = none ↔ ∀ c ∈ t.columns, c.isKey = false := by
    simp [List.find?_eq_none]
  rw [keyColumn?, Option.or_eq_some_iff, List.find?_eq_some_iff_append, hnone,
    List.head?_eq_some_iff]
  constructor
  · rintro (⟨hkey, before, behind, hcolumns, hbefore⟩ | ⟨hall, behind, hcolumns⟩)
    · exact .first before behind hcolumns hkey fun c hc => by simpa using hbefore c hc
    · exact .head behind hcolumns hall
  · rintro (⟨before, behind, hcolumns, hkey, hbefore⟩ | ⟨behind, hcolumns, hall⟩)
    · exact .inl ⟨hkey, before, behind, hcolumns, fun c hc => by simp [hbefore c hc]⟩
    · exact .inr ⟨hall, behind, hcolumns⟩

theorem Table.exists_isKeyColumn {t : Table} (h : t.columns ≠ []) :
    ∃ key, t.keyColumn? = some key ∧ t.IsKeyColumn key := by
  cases hkey : t.keyColumn? with
  | none => exact absurd (t.keyColumn?_eq_none_iff.1 hkey) h
  | some key => exact ⟨key, rfl, (t.keyColumn?_eq_some_iff key).1 hkey⟩

/-! ## Sample values -/

/-- A sample value: the number zero or a text. -/
inductive SampleValue where
  | zero
  | text (s : String)
  deriving DecidableEq, Repr

/-- What is inserted into a column of a category. -/
def TypeCategory.sampleValue : TypeCategory → SampleValue
  | integer | fractional => .zero
  | dateTime | date => .text "2024-01-01 12:00:00"
  | other => .text "test_value"

namespace SampleValue

def written : SampleValue → String
  | zero => "0"
  | text s => quoteText s

/-- The quoted parts of a sample value. -/
def parts : SampleValue → List Quotation
  | zero => []
  | text s => [.text s]

/-- A sample value: the digit or a quoted text. -/
def read? : Reader SampleValue := fun cs =>
  (Reader.wordOrText "0" cs).map fun (s, rest) => ((s.map text).getD zero, rest)

theorem readsBack_written :
    ReadsBack read? written fun rest => rest.head? ≠ some '\'' := by
  have hread := readsBack_wordOrText (show "0".toList.head? = some '0' by decide) (by decide)
  intro value rest h
  cases value with
  | zero =>
    have hzero : Reader.wordOrText "0" ("0".toList ++ rest) = some (none, rest) := hread none rest h
    rw [read?, written, hzero]
    rfl
  | text s =>
    have htext : Reader.wordOrText "0" ((quoteText s).toList ++ rest) = some (some s, rest) :=
      hread (some s) rest h
    rw [read?, written, htext]
    rfl

theorem read?_eq_none {rest : List Char} (h : rest.head? = some ')') : read? rest = none := by
  rw [read?, wordOrText_eq_none (show "0".toList.head? = some '0' by decide) (by simp [h])
    (by simp [h])]
  rfl

theorem yieldsBehind_written (d : Dialect) (value : SampleValue) :
    YieldsBehind d.nameQuote value.written value.parts := by
  cases value with
  | zero => exact Unquoted.yieldsBehind (by cases d <;> decide)
  | text s => exact fun lead hlead hne => yields_text hlead hne s

@[simp] theorem names_parts (value : SampleValue) : Quotation.names value.parts = [] := by
  cases value <;> rfl

end SampleValue

/-- A column's sample value goes by the category of its type. -/
theorem Column.insertSample_eq (c : Column) : c.insertSample = c.category.sampleValue.written := by
  unfold insertSample
  cases c.category <;> decide

namespace Column

/-- The quoted parts of the value that a column is set to. -/
def updateParts (c : Column) : List Quotation :=
  match c.category with
  | .integer | .dateTime => []
  | .fractional | .date | .other => [.text "new_value"]

theorem yieldsBehind_updateSample (d : Dialect) (c : Column) :
    YieldsBehind d.nameQuote c.updateSample c.updateParts := by
  have htext : YieldsBehind d.nameQuote (quoteText "new_value") [.text "new_value"] :=
    fun lead hlead hne => yields_text hlead hne _
  unfold updateSample updateParts
  cases c.category with
  | integer => exact Unquoted.yieldsBehind (by cases d <;> decide)
  | dateTime => exact Unquoted.yieldsBehind (by cases d <;> decide)
  | fractional => exact htext
  | date => exact htext
  | other => exact htext

@[simp] theorem names_updateParts (c : Column) : Quotation.names c.updateParts = [] := by
  unfold updateParts
  cases c.category <;> rfl

end Column

/-! ## One row for a table -/

/-- One row of sample values for a table. -/
structure SampleInsert where
  table : String
  columns : List String
  values : List SampleValue
  deriving DecidableEq, Repr

namespace SampleInsert

/-- The statement that inserts the row. -/
def text (d : Dialect) (i : SampleInsert) : String :=
  "INSERT INTO " ++ quoteName d i.table ++ "\n(" ++ quoteNames d i.columns ++ ")\nVALUES\n(" ++
    ", ".intercalate (i.values.map SampleValue.written) ++ ");"

def read? (nameQuote : Char) : Reader SampleInsert := fun cs => do
  let cs ← cs.dropPrefix? "INSERT INTO ".toList
  let (table, cs) ← Reader.quoted nameQuote cs
  let cs ← cs.dropPrefix? "\n(".toList
  let (columns, cs) ← Reader.separated (Reader.quoted nameQuote) ", ".toList cs
  let cs ← cs.dropPrefix? ")\nVALUES\n(".toList
  let (values, cs) ← Reader.separated SampleValue.read? ", ".toList cs
  let cs ← cs.dropPrefix? ");".toList
  return (⟨table, columns, values⟩, cs)

/-- **The statement for a row is read back, whatever follows it.** -/
theorem readsBack_text (d : Dialect) :
    ReadsBack (read? d.nameQuote) (text d) fun _ => True := by
  intro i rest _
  have hpieces : (i.text d).toList ++ rest =
      "INSERT INTO ".toList ++ ((quoteName d i.table).toList ++ ("\n(".toList ++
        ((quoteNames d i.columns).toList ++ (")\nVALUES\n(".toList ++
          ((", ".intercalate (i.values.map SampleValue.written)).toList ++
            (");".toList ++ rest)))))) := by
    unfold text
    simp only [String.toList_append, List.append_assoc]
  have hvalues : Reader.separated SampleValue.read? ", ".toList
      ((", ".intercalate (i.values.map SampleValue.written)).toList ++ (");".toList ++ rest)) =
        some (i.values, ");".toList ++ rest) :=
    separated_intercalate (c := ',') SampleValue.readsBack_written (by decide) (fun _ => by simp)
      (by simp) (by simp) (SampleValue.read?_eq_none (by simp)) _
  simp (disch := cases d <;> simp [Dialect.nameQuote]) only [hpieces, read?, dropPrefix?_append,
    quoted_quoteName, separated_quoteNames, hvalues, Option.bind_eq_bind, Option.bind_some,
    Option.pure_def]

end SampleInsert

/-! ## The four statements -/

namespace Table

variable (d : Dialect) (t : Table)

/-- The columns that an INSERT names: MySQL numbers the key itself. -/
def listedColumns : List Column :=
  if d = .mysql then t.columns.filter (!·.isKey) else t.columns

theorem insertColumns_eq : t.insertColumns d = t.listedColumns d := by
  unfold insertColumns listedColumns
  split
  · rename_i hd
    simp [hd]
  · rename_i hd
    have : (d == Dialect.mysql) = false := by simpa using hd
    simp [this]

/-- The row that an INSERT has for a table. -/
def sampleInsert : SampleInsert where
  table := t.name
  columns := (t.listedColumns d).map (·.name)
  values := (t.listedColumns d).map (·.category.sampleValue)

theorem insertStatement_eq : t.insertStatement d = (t.sampleInsert d).text d := by
  unfold insertStatement SampleInsert.text
  simp only [insertColumns_eq, sampleInsert, List.map_map, Function.comp_def,
    Column.insertSample_eq]

theorem yields_selectStatement :
    Yields d.nameQuote (t.selectStatement d) (t.columnNames.map .name ++ [.name t.name]) := by
  have hcolumns := yields_names (show Unquoted d.nameQuote "SELECT\n  " by cases d <;> decide)
    (by decide) t.columnNames
  have htable := yields_name (show Unquoted d.nameQuote "\nFROM " by cases d <;> decide)
    (by decide) t.name
  have hend : Unquoted d.nameQuote "\nLIMIT 100;" := by cases d <;> decide
  have := (hcolumns.append htable).append_plain hend
  unfold selectStatement
  simpa only [String.append_assoc] using this

theorem yields_insertStatement :
    Yields d.nameQuote (t.insertStatement d)
      ([.name t.name] ++ (t.sampleInsert d).columns.map .name ++
        (t.sampleInsert d).values.flatMap SampleValue.parts) := by
  have htable := yields_name (show Unquoted d.nameQuote "INSERT INTO " by cases d <;> decide)
    (by decide) t.name
  have hcolumns := yields_names (show Unquoted d.nameQuote "\n(" by cases d <;> decide)
    (by decide) (t.sampleInsert d).columns
  -- a value may start with a quote, so it is only read right behind a parenthesis or a separator
  have hpieces : List.Forall₂ (YieldsBehind d.nameQuote)
      ((t.sampleInsert d).values.map SampleValue.written)
      ((t.sampleInsert d).values.map SampleValue.parts) :=
    Text.forall₂_map_map.2 fun value _ => value.yieldsBehind_written d
  have hsep : Unquoted d.nameQuote ", " := by cases d <;> decide
  have hvalues := YieldsBehind.intercalate hsep (by decide) hpieces ")\nVALUES\n("
    (by cases d <;> decide) (by decide)
  have hend : Unquoted d.nameQuote ");" := by cases d <;> decide
  have := ((htable.append hcolumns).append hvalues).append_plain hend
  rw [insertStatement_eq]
  unfold SampleInsert.text
  simpa only [String.append_assoc, sampleInsert, List.flatMap_def] using this

theorem yields_assignment (c : Column) :
    Yields d.nameQuote ("  " ++ quoteName d c.name ++ " = " ++ c.updateSample)
      ([.name c.name] ++ c.updateParts) := by
  have hname := yields_name (show Unquoted d.nameQuote "  " by cases d <;> decide) (by decide)
    c.name
  have hvalue := c.yieldsBehind_updateSample d " = " (by cases d <;> decide) (by decide)
  have := hname.append hvalue
  rwa [← String.append_assoc] at this

theorem yields_updateStatement (key : Column) :
    Yields d.nameQuote (t.updateStatement d key)
      ([.name t.name] ++ ((t.updateColumns key).flatMap fun c => [.name c.name] ++ c.updateParts) ++
        [.name key.name]) := by
  have htable := yields_name (show Unquoted d.nameQuote "UPDATE " by cases d <;> decide)
    (by decide) t.name
  have hset : Unquoted d.nameQuote "\nSET\n" := by cases d <;> decide
  have hpieces : List.Forall₂ (Yields d.nameQuote)
      ((t.updateColumns key).map fun c =>
        "  " ++ quoteName d c.name ++ " = " ++ c.updateSample)
      ((t.updateColumns key).map fun c => [.name c.name] ++ c.updateParts) :=
    Text.forall₂_map_map.2 fun c _ => yields_assignment d c
  have hsep : Unquoted d.nameQuote ",\n" := by cases d <;> decide
  have hassignments := Yields.intercalate hsep hpieces
  have hkey := yields_name (show Unquoted d.nameQuote "\nWHERE " by cases d <;> decide)
    (by decide) key.name
  have hend : Unquoted d.nameQuote " = 1;" := by cases d <;> decide
  have := (((htable.append_plain hset).append hassignments).append hkey).append_plain hend
  unfold updateStatement
  simpa only [String.append_assoc, List.flatMap_def] using this

theorem yields_deleteStatement (key : Column) :
    Yields d.nameQuote (t.deleteStatement d key) ([.name t.name] ++ [.name key.name]) := by
  have htable := yields_name (show Unquoted d.nameQuote "DELETE FROM " by cases d <;> decide)
    (by decide) t.name
  have hkey := yields_name (show Unquoted d.nameQuote "\nWHERE " by cases d <;> decide)
    (by decide) key.name
  have hend : Unquoted d.nameQuote " = 1;" := by cases d <;> decide
  have := (htable.append hkey).append_plain hend
  unfold deleteStatement
  simpa only [String.append_assoc] using this

/-- There is a sample statement of a kind; a scan of it ends outside the quotes and finds these
names, in this order. -/
def SampleNames (kind : DmlKind) (names : List String) : Prop :=
  ∃ s parts, t.sample? kind d = .ok s ∧ scan? d.nameQuote s = some parts ∧
    Quotation.names parts = names

variable {d t}

theorem SampleNames.of_yields {kind : DmlKind} {s : String} {parts : List Quotation}
    {names : List String} (hs : t.sample? kind d = .ok s) (h : Yields d.nameQuote s parts)
    (hnames : Quotation.names parts = names) : t.SampleNames d kind names :=
  ⟨s, parts, hs, h.scan?_eq, hnames⟩

theorem updateColumns_eq (key : Column) :
    t.updateColumns key = (t.columns.filter fun c =>
      ¬ c.isKey ∧ c.name ≠ key.name ∧ c.name ≠ "created_at").take 3 := by
  rw [updateColumns]
  refine congrArg (List.take 3) (List.filter_congr fun c _ => ?_)
  rw [Bool.eq_iff_iff]
  simp [and_assoc]

end Table

/-- **Every sample statement names the right columns, whatever their names are.** SELECT names all
columns and then the table; INSERT the table and the columns that it lists, with a value of the
right category for each; UPDATE the table, at most three columns and the key column; DELETE the
table and the key column. -/
theorem sample_statements_name_columns (d : Dialect) {t : Table} (h : t.columns ≠ []) :
    t.SampleNames d .select (t.columns.map (·.name) ++ [t.name]) ∧
    t.SampleNames d .insert (t.name :: (t.listedColumns d).map (·.name)) ∧
    (∃ s, t.sample? .insert d = .ok s ∧ SampleInsert.read? d.nameQuote s.toList =
      some (⟨t.name, (t.listedColumns d).map (·.name),
        (t.listedColumns d).map (·.category.sampleValue)⟩, [])) ∧
    ∃ key, t.IsKeyColumn key ∧
      t.SampleNames d .update (t.name :: ((t.columns.filter fun c =>
        ¬ c.isKey ∧ c.name ≠ key.name ∧ c.name ≠ "created_at").take 3).map (·.name) ++
          [key.name]) ∧
      t.SampleNames d .delete [t.name, key.name] := by
  obtain ⟨key, hkey, hspec⟩ := t.exists_isKeyColumn h
  refine ⟨?select, ?insert, ?row, key, hspec, ?update, ?delete⟩
  case select =>
    have hs : t.sample? .select d = .ok (t.selectStatement d) := by simp only [Table.sample?, hkey]
    refine .of_yields hs (t.yields_selectStatement d) ?_
    rw [Quotation.names_append, Quotation.names_map_name]
    rfl
  case insert =>
    have hs : t.sample? .insert d = .ok (t.insertStatement d) := by simp only [Table.sample?, hkey]
    have hvalues : Quotation.names ((t.sampleInsert d).values.flatMap SampleValue.parts) = [] := by
      simp [Quotation.names_flatMap]
    refine .of_yields hs (t.yields_insertStatement d) ?_
    rw [Quotation.names_append, Quotation.names_append, Quotation.names_map_name, hvalues,
      List.append_nil]
    rfl
  case row =>
    refine ⟨t.insertStatement d, by simp only [Table.sample?, hkey], ?_⟩
    have := SampleInsert.readsBack_text d (t.sampleInsert d) [] trivial
    rwa [List.append_nil, ← t.insertStatement_eq] at this
  case update =>
    have hs : t.sample? .update d = .ok (t.updateStatement d key) := by
      simp only [Table.sample?, hkey]
    refine .of_yields hs (t.yields_updateStatement d key) ?_
    rw [← Table.updateColumns_eq, List.map_eq_flatMap]
    simp [Quotation.names_flatMap]
  case delete =>
    have hs : t.sample? .delete d = .ok (t.deleteStatement d key) := by
      simp only [Table.sample?, hkey]
    exact .of_yields hs (t.yields_deleteStatement d key) rfl

/-- Names with quotes, a comma and a line break, columns of one name, and a key that is not the
first column. -/
theorem sample_statements_name_columns_repeated :
    let t : Table :=
      { name := "a\x60b", columns :=
          [{ name := "x\x60, \x60y", typeName := "date" },
            { name := "key\n", typeName := "int", isKey := true },
            { name := "it's", typeName := " Decimal" },
            { name := "created_at", typeName := "datetime" },
            { name := "key\n", typeName := "json" },
            { name := "it's", typeName := "text" }] }
    t.columns ≠ [] ∧
    t.SampleNames .mysql .select
      ["x\x60, \x60y", "key\n", "it's", "created_at", "key\n", "it's", "a\x60b"] ∧
    t.SampleNames .mysql .insert
      ["a\x60b", "x\x60, \x60y", "it's", "created_at", "key\n", "it's"] ∧
    (∃ s, t.sample? .insert .mysql = .ok s ∧ SampleInsert.read? '\x60' s.toList =
      some (⟨"a\x60b", ["x\x60, \x60y", "it's", "created_at", "key\n", "it's"],
        [.text "2024-01-01 12:00:00", .zero, .text "2024-01-01 12:00:00", .text "test_value",
          .text "test_value"]⟩, [])) ∧
    t.SampleNames .mysql .update ["a\x60b", "x\x60, \x60y", "it's", "it's", "key\n"] ∧
    t.SampleNames .mysql .delete ["a\x60b", "key\n"] := by
  intro t
  have hcolumns : t.columns ≠ [] := List.cons_ne_nil _ _
  obtain ⟨hselect, hinsert, hrow, key, hkey, hupdate, hdelete⟩ :=
    sample_statements_name_columns .mysql hcolumns
  -- the first key column is found by evaluation, and there is only one
  have hfirst := (t.keyColumn?_eq_some_iff key).2 hkey
  cases hfirst
  have hvalues : (t.listedColumns .mysql).map (·.category.sampleValue) =
      [.text "2024-01-01 12:00:00", .zero, .text "2024-01-01 12:00:00", .text "test_value",
        .text "test_value"] := by decide
  rw [hvalues] at hrow
  exact ⟨hcolumns, hselect, hinsert, hrow, hupdate, hdelete⟩

end TableSql
