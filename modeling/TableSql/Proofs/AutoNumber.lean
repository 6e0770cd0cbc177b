import TableSql.Proofs.Ddl.KeyConstraint
import TableSql.Proofs.Ddl.Serial
import TableSql.Proofs.Dml
import TableSql.Proofs.Validation

/-!
# Columns that the database numbers itself

MySQL and SQL Server number the columns of the primary key themselves. The check of a table and the
sample statements each have a rule of their own about this, and both rules know MySQL only; the rule
about default values knows serial types only.

* `Column.isNumbered` — the definition of a column says that the database numbers it.
* `Table.numberedColumns`, `Table.unnumberedColumns` — the columns with such a definition, and the
  others.
* `Table.Declares` — the columns that a CREATE TABLE statement has definitions of.
* `Table.InsertsInto` — the columns that the sample INSERT gives values for.

Principal results: `numberedColumns_eq` (which columns are numbered), `declares_createStatement`,
and from them which numbered columns have a default value, how many columns are numbered in a table
that a check finds nothing in, and whether a sample INSERT leaves out just the numbered ones.
-/

set_option autoImplicit false

namespace TableSql

/-! ## Numbered columns -/

/-- Does the definition of a column say that the database numbers it? -/
def Column.isNumbered (d : Dialect) (c : Column) : Bool := (c.clauses d).autoNumber.isSome

theorem Column.isNumbered_eq (d : Dialect) (c : Column) :
    c.isNumbered d = (c.isKey && d.autoNumberClause.isSome) := by
  unfold isNumbered clauses
  cases c.isKey <;> simp

theorem Dialect.isSome_autoNumberClause_iff (d : Dialect) :
    d.autoNumberClause.isSome = true ↔ d = .mysql ∨ d = .sqlserver := by
  cases d <;> decide

/-- **The numbered columns with a DEFAULT clause are the key columns of MySQL and SQL Server that
have a default value,** unless SERIAL stands in the type; a serial type comes with no DEFAULT. -/
theorem Column.numbered_with_default_iff (d : Dialect) (c : Column) :
    (c.isNumbered d = true ∧ (c.clauses d).default?.isSome = true ↔
      (d = .mysql ∨ d = .sqlserver) ∧ c.isKey = true ∧ c.HasDefault ∧
        ¬ MentionsSerial c.typeName) ∧
      (IsSerialType (c.typeToken d) → (c.clauses d).default? = none) := by
  constructor
  · rw [isNumbered_eq, Bool.and_eq_true, Dialect.isSome_autoNumberClause_iff, isSome_default?_iff,
      mentionsSerial_typeToken_iff]
    constructor
    · rintro ⟨⟨hkey, hd⟩, hdefault, hmentions⟩
      exact ⟨hd, hkey, hdefault, fun h => hmentions (.inl h)⟩
    · rintro ⟨hd, hkey, hdefault, hmentions⟩
      refine ⟨⟨hkey, hd⟩, hdefault, ?_⟩
      -- only PostgreSQL puts SERIAL into a type, and it writes no clause for numbering
      rintro (h | ⟨rfl, -, -⟩)
      · exact hmentions h
      · rcases hd with hd | hd <;> cases hd
  · intro hserial
    rw [← Option.not_isSome_iff_eq_none, isSome_default?_iff]
    exact fun h => h.2 hserial.mentionsSerial

/-- A numbered key of MySQL with a default value. -/
theorem Column.numbered_key_keeps_default :
    let c : Column :=
      { name := "id", typeName := "bigint", nullable := false, isKey := true
        default? := some "0" }
    (c.clauses .mysql).autoNumber = some "AUTO_INCREMENT" ∧
      (c.clauses .mysql).default? = some "DEFAULT 0" ∧
      c.definition .mysql = "`id` BIGINT NOT NULL AUTO_INCREMENT DEFAULT 0" := by
  decide

namespace Table

variable {d : Dialect} {t : Table}

/-- The columns that the database numbers. -/
def numberedColumns (d : Dialect) (t : Table) : List Column := t.columns.filter (·.isNumbered d)

/-- The columns that the database does not number. -/
def unnumberedColumns (d : Dialect) (t : Table) : List Column := t.columns.filter (!·.isNumbered d)

/-- **The numbered columns are those of the primary key, or none at all.** -/
theorem numberedColumns_eq (d : Dialect) (t : Table) :
    t.numberedColumns d = if d.autoNumberClause.isSome then t.keyColumns else [] := by
  unfold numberedColumns keyColumns
  simp only [Column.isNumbered_eq]
  split
  · rename_i hd
    simp only [hd, Bool.and_true]
  · rename_i hd
    simp [hd]

/-- An UPDATE sets columns outside the primary key, which no dialect numbers. -/
theorem isNumbered_of_mem_updateColumns {key c : Column} (h : c ∈ t.updateColumns key) :
    c.isNumbered d = false := by
  have hc := (List.mem_filter.1 (List.mem_of_mem_take h)).2
  simp only [Bool.and_eq_true, Bool.not_eq_true'] at hc
  rw [Column.isNumbered_eq, hc.1.1, Bool.false_and]

/-! ## Definitions in CREATE TABLE -/

/-- Between its parentheses a statement has one line for each of some columns, with the definition
of the column, and perhaps a line for the key. -/
def Declares (d : Dialect) (t : Table) (statement : String) (columns : List Column) : Prop :=
  ∃ (key : Option String) (behind : String),
    (∀ line ∈ key, ∃ words, t.keyLine words d = some line) ∧
    statement = createBody d t.name (columns.map (·.definition d) ++ key.toList) ++ behind

/-- The columns of a table in the order in which a dialect declares them. -/
def declaredColumns (d : Dialect) (t : Table) : List Column :=
  if d = .doris then t.keysFirst else t.columns

theorem declaredColumns_perm (d : Dialect) (t : Table) : (t.declaredColumns d).Perm t.columns := by
  unfold declaredColumns
  split
  · exact t.keysFirst_perm
  · exact .refl _

/-- **A statement has one definition for each column.** -/
theorem declares_createStatement (d : Dialect) (t : Table) :
    t.Declares d (t.createStatement d) (t.declaredColumns d) := by
  have hkey (words : String) : ∀ line ∈ t.keyLine words d, ∃ words, t.keyLine words d = some line :=
    fun line h => ⟨words, h⟩
  cases d with
  | mysql =>
    refine ⟨t.keyLine "" .mysql, t.mysqlOptions ++ ";", hkey _, ?_⟩
    rw [← String.append_assoc]
    rfl
  | doris =>
    refine ⟨none, dorisOptions ++ ";", fun line h => (by cases h), ?_⟩
    rw [← String.append_assoc, Option.toList_none, List.append_nil]
    rfl
  | postgresql | oracle | sqlserver =>
    exact ⟨_, _, hkey _, createStatement_of_deferred rfl t⟩

/-! ## Tables that pass the check -/

/-- **A table that a check finds nothing in has at most one column that the database numbers, except
that in SQL Server it may have as many of them as the primary key has columns.** -/
theorem passed_numbers_one_iff (h : t.check d = {}) :
    ((t.numberedColumns d).length ≤ 1 ↔ (d = .sqlserver → t.keyColumns.length ≤ 1)) ∧
      ∃ statement columns, t.create? d = .ok statement ∧ t.Declares d statement columns ∧
        columns.Perm t.columns ∧
        (columns.filter (·.isNumbered d)).length = (t.numberedColumns d).length := by
  have hpassed := check_eq_empty_iff.1 h
  constructor
  · rw [numberedColumns_eq]
    cases d with
    | mysql =>
      have hone := hpassed.length_keyColumns_le_one
      simpa [Dialect.autoNumberClause] using hone
    | sqlserver => simp [Dialect.autoNumberClause]
    | postgresql | doris | oracle => simp [Dialect.autoNumberClause]
  · have hperm := t.declaredColumns_perm d
    exact ⟨_, _, create?_eq_ok d hpassed.columns, t.declares_createStatement d, hperm,
      (hperm.filter _).length_eq⟩

/-- A key of one column behind another column. -/
theorem passed_numbers_one_orders :
    let t : Table :=
      { name := "orders"
        columns := [
          { name := "placed_on", typeName := "date" },
          { name := "id", typeName := "bigint", isKey := true }] }
    t.check .sqlserver = {} ∧ (t.numberedColumns .sqlserver).length ≤ 1 ∧
      ∃ statement columns, t.create? .sqlserver = .ok statement ∧
        t.Declares .sqlserver statement columns ∧ columns.Perm t.columns ∧
        (columns.filter (·.isNumbered .sqlserver)).length ≤ 1 := by
  intro t
  have hcheck : t.check .sqlserver = {} := by decide
  obtain ⟨hone, statement, columns, hstatement, hdeclares, hperm, hcount⟩ :=
    passed_numbers_one_iff hcheck
  have hle : (t.numberedColumns .sqlserver).length ≤ 1 := hone.2 fun _ => by decide
  exact ⟨hcheck, hle, statement, columns, hstatement, hdeclares, hperm, hcount.trans_le hle⟩

/-- Nothing is found in a SQL Server table whose primary key has two columns, and both are
numbered. -/
theorem passed_numbers_two :
    let t : Table :=
      { name := "user_roles"
        columns := [
          { name := "user_id", typeName := "int", nullable := false, isKey := true },
          { name := "role_id", typeName := "int", nullable := false, isKey := true }] }
    t.check .sqlserver = {} ∧ t.numberedColumns .sqlserver = t.columns ∧
      t.create? .sqlserver = .ok ("CREATE TABLE \"user_roles\" (\n" ++
        "  \"user_id\" INT NOT NULL IDENTITY(1,1),\n" ++
        "  \"role_id\" INT NOT NULL IDENTITY(1,1),\n" ++
        "  CONSTRAINT pk_user_roles PRIMARY KEY (\"user_id\", \"role_id\")\n);") := by
  decide +kernel

/-! ## Sample statements -/

/-- The sample INSERT of a table gives a value to each of some columns, and to no other. -/
def InsertsInto (d : Dialect) (t : Table) (columns : List Column) : Prop :=
  ∃ s, t.sample? .insert d = .ok s ∧ SampleInsert.read? d.nameQuote s.toList =
    some (⟨t.name, columns.map (·.name), columns.map (·.category.sampleValue)⟩, [])

theorem InsertsInto.names_eq {columns columns' : List Column} (h : t.InsertsInto d columns)
    (h' : t.InsertsInto d columns') : columns.map (·.name) = columns'.map (·.name) := by
  obtain ⟨s, hs, hread⟩ := h
  obtain ⟨s', hs', hread'⟩ := h'
  rw [hs, Except.ok.injEq] at hs'
  rw [← hs', hread] at hread'
  simp only [Option.some.injEq, Prod.mk.injEq, SampleInsert.mk.injEq] at hread'
  exact hread'.1.2.1

/-- **A table with columns has a sample INSERT into the columns that are listed.** -/
theorem insertsInto_listedColumns (h : t.columns ≠ []) : t.InsertsInto d (t.listedColumns d) := by
  obtain ⟨key, hkey, -⟩ := exists_isKeyColumn h
  refine ⟨t.insertStatement d, by simp only [sample?, hkey], ?_⟩
  have hread := SampleInsert.readsBack_text d (t.sampleInsert d) [] trivial
  rwa [List.append_nil, ← insertStatement_eq] at hread

theorem unnumberedColumns_eq_self (h : t.numberedColumns d = []) :
    t.unnumberedColumns d = t.columns := by
  rw [numberedColumns, List.filter_eq_nil_iff] at h
  rw [unnumberedColumns, List.filter_eq_self]
  intro c hc
  simpa using h c hc

/-- The columns that an INSERT lists are those that are not numbered; in SQL Server this takes a
table without a primary key. -/
theorem listedColumns_eq_unnumberedColumns (h : d = .sqlserver → t.keyColumns = []) :
    t.listedColumns d = t.unnumberedColumns d := by
  cases d with
  | mysql =>
    unfold listedColumns unnumberedColumns
    simp [Column.isNumbered_eq, Dialect.autoNumberClause]
  | postgresql | doris | oracle =>
    rw [unnumberedColumns_eq_self (by simp [numberedColumns_eq, Dialect.autoNumberClause])]
    rfl
  | sqlserver =>
    rw [unnumberedColumns_eq_self (by simp [numberedColumns_eq, h rfl])]
    rfl

/-- A SQL Server table from which no name goes with the numbered columns has no primary key. -/
theorem keyColumns_eq_nil_of_names_eq
    (h : (t.unnumberedColumns .sqlserver).map (·.name) = t.columns.map (·.name)) :
    t.keyColumns = [] := by
  have hlength := congrArg List.length h
  rw [List.length_map, List.length_map, unnumberedColumns, List.length_filter_eq_length_iff]
    at hlength
  rw [keyColumns, List.filter_eq_nil_iff]
  intro c hc
  simpa [Column.isNumbered_eq, Dialect.autoNumberClause] using hlength c hc

theorem sampleNames_update {key : Column} (hkey : t.keyColumn? = some key) :
    t.SampleNames d .update (t.name :: (t.updateColumns key).map (·.name) ++ [key.name]) := by
  have hs : t.sample? .update d = .ok (t.updateStatement d key) := by simp only [sample?, hkey]
  refine .of_yields hs (t.yields_updateStatement d key) ?_
  rw [List.map_eq_flatMap]
  simp [Quotation.names_flatMap]

/-- **The sample INSERT leaves out just the columns that the database numbers, except that in SQL
Server it gives values to all columns, numbered or not.** No dialect has a sample UPDATE that sets a
numbered column. -/
theorem insert_leaves_out_numbered_iff (d : Dialect) (h : t.columns ≠ []) :
    (t.InsertsInto d (t.unnumberedColumns d) ↔ (d = .sqlserver → t.keyColumns = [])) ∧
      (d = .sqlserver → t.InsertsInto d t.columns) ∧
      ∃ (key : Column) (columns : List Column), t.IsKeyColumn key ∧
        (∀ c ∈ columns, c ∈ t.columns ∧ c.isNumbered d = false) ∧
        t.SampleNames d .update (t.name :: columns.map (·.name) ++ [key.name]) := by
  have hlisted : t.InsertsInto d (t.listedColumns d) := insertsInto_listedColumns h
  refine ⟨⟨?alike, ?leftOut⟩, ?all, ?update⟩
  case alike =>
    rintro hunnumbered rfl
    exact keyColumns_eq_nil_of_names_eq (hunnumbered.names_eq hlisted)
  case leftOut =>
    intro hkey
    rwa [← listedColumns_eq_unnumberedColumns hkey]
  case all =>
    rintro rfl
    exact hlisted
  case update =>
    obtain ⟨key, hkey, hspec⟩ := exists_isKeyColumn h
    refine ⟨key, t.updateColumns key, hspec, fun c hc => ⟨?_, isNumbered_of_mem_updateColumns hc⟩,
      sampleNames_update hkey⟩
    exact (List.mem_filter.1 (List.mem_of_mem_take hc)).1

/-- Two numbered columns, and one that has the name of one of them. -/
theorem insert_leaves_out_numbered_members :
    let t : Table :=
      { name := "members"
        columns := [
          { name := "club", typeName := "int", isKey := true },
          { name := "since", typeName := "date" },
          { name := "no", typeName := "int", isKey := true },
          { name := "no", typeName := "text" }] }
    t.columns ≠ [] ∧
      t.InsertsInto .mysql
        [{ name := "since", typeName := "date" }, { name := "no", typeName := "text" }] ∧
      ∃ (key : Column) (columns : List Column), t.IsKeyColumn key ∧
        (∀ c ∈ columns, c ∈ t.columns ∧ c.isNumbered .mysql = false) ∧
        t.SampleNames .mysql .update (t.name :: columns.map (·.name) ++ [key.name]) := by
  intro t
  have hcolumns : t.columns ≠ [] := List.cons_ne_nil _ _
  obtain ⟨hiff, -, hupdate⟩ := insert_leaves_out_numbered_iff .mysql hcolumns
  exact ⟨hcolumns, hiff.2 nofun, hupdate⟩

/-- The sample INSERT of a SQL Server table with a primary key gives a value to the column that the
database numbers. -/
theorem insert_into_numbered_column :
    let t : Table :=
      { name := "users"
        columns := [
          { name := "id", typeName := "bigint", isKey := true },
          { name := "name", typeName := "text" }] }
    (t.numberedColumns .sqlserver).map (·.name) = ["id"] ∧
      t.sample? .insert .sqlserver =
        .ok "INSERT INTO \"users\"\n(\"id\", \"name\")\nVALUES\n(0, 'test_value');" ∧
      ¬ t.InsertsInto .sqlserver (t.unnumberedColumns .sqlserver) := by
  intro t
  refine ⟨by decide, by decide +kernel, fun hunnumbered => ?_⟩
  have hlisted : t.InsertsInto .sqlserver (t.listedColumns .sqlserver) :=
    insertsInto_listedColumns (List.cons_ne_nil _ _)
  have hnames := hunnumbered.names_eq hlisted
  revert hnames
  decide

end Table

end TableSql
