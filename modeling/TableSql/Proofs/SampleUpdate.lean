import TableSql.Proofs.Dml

/-!
# What a sample UPDATE sets

* `UpdateValue`, `Assignment` — a value, and a column that is set to it.
* `SampleUpdate`, `SampleUpdate.read?` — the assignments for the row with the key 1, and a reader of
  their statement.
* `Column.MaySet` — the columns that an UPDATE of the row with a given key may set.
* `Table.Sets` — the sample UPDATE of a table sets some columns and no other.

Principal results: `SampleUpdate.readsBack_text` (whatever is written is read back) and
`update_sets_something_iff` (an UPDATE sets up to three columns beside the key, but it is written
also where there is no such column).
-/

set_option autoImplicit false

namespace TableSql

/-! ## Assignments -/

/-- What a sample UPDATE sets a column to: the number one, the present time or a text. -/
inductive UpdateValue where
  | one
  | now
  | text (s : String)
  deriving DecidableEq, Repr

/-- What a column of a category is set to. -/
def TypeCategory.updateValue : TypeCategory → UpdateValue
  | integer => .one
  | dateTime => .now
  | fractional | date | other => .text "new_value"

namespace UpdateValue

def written : UpdateValue → String
  | one => "1"
  | now => "NOW()"
  | text s => quoteText s

/-- One of the two words or a quoted text. -/
def read? : Reader UpdateValue := fun cs =>
  match cs.dropPrefix? "1".toList with
  | some rest => some (one, rest)
  | none => (Reader.wordOrText "NOW()" cs).map fun (s, rest) => ((s.map text).getD now, rest)

theorem readsBack_written : ReadsBack read? written fun rest => rest.head? ≠ some '\'' := by
  have hread := readsBack_wordOrText (show "NOW()".toList.head? = some 'N' by decide) (by decide)
  have hone {cs : List Char} (h : cs.head? ≠ some '1') : cs.dropPrefix? "1".toList = none :=
    dropPrefix?_eq_none (show "1".toList.head? = some '1' by decide) h
  intro value rest h
  cases value with
  | one =>
    change read? ("1".toList ++ rest) = _
    rw [read?, dropPrefix?_append]
  | now =>
    have hnow : Reader.wordOrText "NOW()" ("NOW()".toList ++ rest) = some (none, rest) :=
      hread none rest h
    change read? ("NOW()".toList ++ rest) = _
    rw [read?, hone (by simp), hnow]
    rfl
  | text s =>
    have htext : Reader.wordOrText "NOW()" ((quoteText s).toList ++ rest) = some (some s, rest) :=
      hread (some s) rest h
    rw [written, read?, hone (by simp [quoteText, Text.enclosed, Text.enclosedChars]), htext]
    rfl

end UpdateValue

/-- A column that is set to a value. -/
structure Assignment where
  column : String
  value : UpdateValue
  deriving DecidableEq, Repr

namespace Assignment

def text (d : Dialect) (a : Assignment) : String :=
  "  " ++ quoteName d a.column ++ " = " ++ a.value.written

/-- A quoted name and the value behind it. -/
def read? (nameQuote : Char) : Reader Assignment := fun cs => do
  let cs ← cs.dropPrefix? "  ".toList
  let (column, cs) ← Reader.quoted nameQuote cs
  let cs ← cs.dropPrefix? " = ".toList
  let (value, cs) ← UpdateValue.read? cs
  return (⟨column, value⟩, cs)

theorem readsBack_text (d : Dialect) :
    ReadsBack (read? d.nameQuote) (text d) fun rest => rest.head? ≠ some '\'' := by
  intro a rest h
  have hpieces : (a.text d).toList ++ rest = "  ".toList ++ ((quoteName d a.column).toList ++
      (" = ".toList ++ (a.value.written.toList ++ rest))) := by
    unfold text
    simp only [String.toList_append, List.append_assoc]
  have hvalue := UpdateValue.readsBack_written a.value rest h
  simp (disch := cases d <;> simp [Dialect.nameQuote]) only [hpieces, read?, dropPrefix?_append,
    quoted_quoteName, hvalue, Option.bind_eq_bind, Option.bind_some, Option.pure_def]

theorem read?_eq_none (nameQuote : Char) {rest : List Char} (h : rest.head? ≠ some ' ') :
    read? nameQuote rest = none := by
  rw [read?, dropPrefix?_eq_none (show "  ".toList.head? = some ' ' by decide) h]
  rfl

end Assignment

/-! ## Statements -/

/-- Assignments for the row of a table whose key column is 1. -/
structure SampleUpdate where
  table : String
  assignments : List Assignment
  key : String
  deriving DecidableEq, Repr

namespace SampleUpdate

/-- The statement that makes the assignments. -/
def text (d : Dialect) (u : SampleUpdate) : String :=
  "UPDATE " ++ quoteName d u.table ++ "\nSET\n" ++ ",\n".intercalate (u.assignments.map (·.text d)) ++
    "\nWHERE " ++ quoteName d u.key ++ " = 1;"

/-- A statement that makes assignments. -/
def read? (nameQuote : Char) : Reader SampleUpdate := fun cs => do
  let cs ← cs.dropPrefix? "UPDATE ".toList
  let (table, cs) ← Reader.quoted nameQuote cs
  let cs ← cs.dropPrefix? "\nSET\n".toList
  let (assignments, cs) ← Reader.separated (Assignment.read? nameQuote) ",\n".toList cs
  let cs ← cs.dropPrefix? "\nWHERE ".toList
  let (key, cs) ← Reader.quoted nameQuote cs
  let cs ← cs.dropPrefix? " = 1;".toList
  return (⟨table, assignments, key⟩, cs)

/-- **The statement is read back, whatever follows it.** -/
theorem readsBack_text (d : Dialect) :
    ReadsBack (read? d.nameQuote) (text d) fun _ => True := by
  intro u rest _
  have hpieces : (u.text d).toList ++ rest =
      "UPDATE ".toList ++ ((quoteName d u.table).toList ++ ("\nSET\n".toList ++
        ((",\n".intercalate (u.assignments.map (·.text d))).toList ++ ("\nWHERE ".toList ++
          ((quoteName d u.key).toList ++ (" = 1;".toList ++ rest)))))) := by
    unfold text
    simp only [String.toList_append, List.append_assoc]
  have hassignments (more : List Char) :
      Reader.separated (Assignment.read? d.nameQuote) ",\n".toList
        ((",\n".intercalate (u.assignments.map (·.text d))).toList ++
          ("\nWHERE ".toList ++ more)) = some (u.assignments, "\nWHERE ".toList ++ more) :=
    separated_intercalate (c := ',') (Assignment.readsBack_text d) (by decide) (fun _ => by simp)
      (by simp) (by simp) (Assignment.read?_eq_none _ (by simp)) _
  simp (disch := cases d <;> simp [Dialect.nameQuote]) only [hpieces, read?, dropPrefix?_append,
    quoted_quoteName, hassignments, Option.bind_eq_bind, Option.bind_some, Option.pure_def]

end SampleUpdate

/-! ## The sample UPDATE of a table -/

theorem Column.updateSample_eq (c : Column) :
    c.updateSample = c.category.updateValue.written := by
  unfold updateSample
  cases c.category <;> decide

/-- What the sample UPDATE of a table sets a column to. -/
def Column.assignment (c : Column) : Assignment := ⟨c.name, c.category.updateValue⟩

/-- A column that an UPDATE of the row with a given key may set: it is not in the primary key, has
not the name of the key column and does not record when a row was made. -/
structure Column.MaySet (key c : Column) : Prop where
  notKey : c.isKey = false
  otherName : c.name ≠ key.name
  notCreated : c.name ≠ "created_at"

namespace Table

variable {d : Dialect} {t : Table} {key : Column}

/-- The sample UPDATE of a table goes by a key column and sets each of some columns, and no other. -/
def Sets (d : Dialect) (t : Table) (key : Column) (columns : List Column) : Prop :=
  ∃ s, t.sample? .update d = .ok s ∧ SampleUpdate.read? d.nameQuote s.toList =
    some (⟨t.name, columns.map (·.assignment), key.name⟩, [])

theorem Sets.assignments_eq {key' : Column} {columns columns' : List Column}
    (h : t.Sets d key columns) (h' : t.Sets d key' columns') :
    columns.map (·.assignment) = columns'.map (·.assignment) := by
  obtain ⟨s, hs, hread⟩ := h
  obtain ⟨s', hs', hread'⟩ := h'
  rw [hs, Except.ok.injEq] at hs'
  rw [← hs', hread] at hread'
  simp only [Option.some.injEq, Prod.mk.injEq, SampleUpdate.mk.injEq] at hread'
  exact hread'.1.2.1

theorem updateStatement_eq (d : Dialect) (t : Table) (key : Column) :
    t.updateStatement d key =
      SampleUpdate.text d ⟨t.name, (t.updateColumns key).map (·.assignment), key.name⟩ := by
  unfold updateStatement SampleUpdate.text
  simp only [List.map_map, Function.comp_def, Column.updateSample_eq, Assignment.text,
    Column.assignment]

/-- **A table with a key column has a sample UPDATE of the columns that are chosen.** -/
theorem sets_updateColumns (hkey : t.keyColumn? = some key) :
    t.Sets d key (t.updateColumns key) := by
  refine ⟨t.updateStatement d key, by simp only [sample?, hkey], ?_⟩
  have hread := SampleUpdate.readsBack_text d
    ⟨t.name, (t.updateColumns key).map (·.assignment), key.name⟩ [] trivial
  rwa [List.append_nil, ← updateStatement_eq] at hread

/-! ## The columns that are chosen -/

theorem maySet_of_mem_updateColumns {c : Column} (h : c ∈ t.updateColumns key) : key.MaySet c := by
  rw [updateColumns_eq] at h
  have hc := (List.mem_filter.1 (List.mem_of_mem_take h)).2
  simp only [decide_eq_true_eq, Bool.not_eq_true] at hc
  exact ⟨hc.1, hc.2.1, hc.2.2⟩

theorem updateColumns_sublist (t : Table) (key : Column) :
    (t.updateColumns key).Sublist t.columns :=
  (List.take_sublist _ _).trans List.filter_sublist

theorem length_updateColumns_le (t : Table) (key : Column) : (t.updateColumns key).length ≤ 3 :=
  List.length_take_le _ _

theorem length_updateColumns_pos_iff :
    1 ≤ (t.updateColumns key).length ↔ ∃ c ∈ t.columns, key.MaySet c := by
  constructor
  · intro hpos
    obtain ⟨c, hc⟩ := List.exists_mem_of_length_pos hpos
    exact ⟨c, (updateColumns_sublist t key).subset hc, maySet_of_mem_updateColumns hc⟩
  · rintro ⟨c, hc, hmay⟩
    have hmem : c ∈ t.columns.filter fun c =>
        ¬ c.isKey ∧ c.name ≠ key.name ∧ c.name ≠ "created_at" :=
      List.mem_filter.2 ⟨hc, by simp [hmay.notKey, hmay.otherName, hmay.notCreated]⟩
    have hpos := List.length_pos_of_mem hmem
    rw [updateColumns_eq, List.length_take]
    omega

/-- **A sample UPDATE sets up to three columns beside the key, and at least one just if there is
one.** The columns are in the order of the table; none is in the primary key, has the name of the
key column or records when a row was made. -/
theorem update_sets_something_iff (d : Dialect) (h : t.columns ≠ []) :
    ∃ (key : Column) (columns : List Column), t.IsKeyColumn key ∧ t.Sets d key columns ∧
      columns.Sublist t.columns ∧ (∀ c ∈ columns, key.MaySet c) ∧ columns.length ≤ 3 ∧
      (1 ≤ columns.length ↔ ∃ c ∈ t.columns, key.MaySet c) := by
  obtain ⟨key, hkey, hspec⟩ := exists_isKeyColumn h
  exact ⟨key, t.updateColumns key, hspec, sets_updateColumns hkey, updateColumns_sublist t key,
    fun c hc => maySet_of_mem_updateColumns hc, length_updateColumns_le t key,
    length_updateColumns_pos_iff⟩

/-- A key behind another column, a second key column, and two columns with the names that are left
out. -/
theorem update_sets_something_visits :
    let t : Table :=
      { name := "visits"
        columns := [
          { name := "note\x60", typeName := "text" },
          { name := "id", typeName := "bigint", isKey := true },
          { name := "created_at", typeName := "datetime" },
          { name := "day", typeName := "date", isKey := true },
          { name := "id", typeName := "int" }] }
    t.columns ≠ [] ∧ ∃ (key : Column) (columns : List Column), t.IsKeyColumn key ∧
      t.Sets .mysql key columns ∧ columns.Sublist t.columns ∧ (∀ c ∈ columns, key.MaySet c) ∧
      1 ≤ columns.length ∧ columns.length ≤ 3 := by
  intro t
  have hcolumns : t.columns ≠ [] := List.cons_ne_nil _ _
  obtain ⟨key, columns, hkey, hsets, hsublist, hmay, hle, hpos⟩ :=
    update_sets_something_iff .mysql hcolumns
  have hid : key.name = "id" := by
    have hfirst := (t.keyColumn?_eq_some_iff key).2 hkey
    cases hfirst
    rfl
  refine ⟨hcolumns, key, columns, hkey, hsets, hsublist, hmay, hpos.2 ?_, hle⟩
  exact ⟨_, List.mem_cons_self, ⟨rfl, by rw [hid]; decide, by decide⟩⟩

/-- The sample UPDATE of a table whose columns are all in the primary key sets nothing. -/
theorem update_sets_nothing :
    let t : Table :=
      { name := "user_roles"
        columns := [
          { name := "user_id", typeName := "int", nullable := false, isKey := true },
          { name := "role_id", typeName := "int", nullable := false, isKey := true }] }
    t.columns ≠ [] ∧
      t.sample? .update .postgresql = .ok "UPDATE \"user_roles\"\nSET\n\nWHERE \"user_id\" = 1;" ∧
      ∀ key columns, t.Sets .postgresql key columns → columns = [] := by
  intro t
  have hkey : t.keyColumn? = some
      { name := "user_id", typeName := "int", nullable := false, isKey := true } := rfl
  have hsets := sets_updateColumns (d := .postgresql) hkey
  refine ⟨List.cons_ne_nil _ _, by decide +kernel, fun key columns h => ?_⟩
  have hempty : columns.map (·.assignment) = [] := h.assignments_eq hsets
  exact List.map_eq_nil_iff.1 hempty

end Table

end TableSql
