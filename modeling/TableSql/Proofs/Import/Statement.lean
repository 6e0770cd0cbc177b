import TableSql.Import
import TableSql.Proofs.Text.Reader

/-!
# What an import statement says

* `Insert` — a table, some columns and tuples of values; a value is a text or missing.
* `Insert.text`, `Insert.read?` — how it is written, and a reader that knows quoted names, quoted
  texts and the word NULL.
* `Insert.IsReadFrom` — a statement is read from a text, and no other statement is written like it.
* `Table.insert` — the names and values that an import brings into a table.

Principal results: `Insert.read?_text` (whatever is written is read back) and
`importStatement_isReadFrom` (an import statement gives back its table, its columns and its rows).
-/

set_option autoImplicit false

namespace TableSql

/-- Rows for a table. A value is a text or missing. -/
structure Insert where
  table : String
  columns : List String
  tuples : List (List (Option String))
  deriving DecidableEq, Repr

namespace Insert

/-! ## Writing and reading -/

def tupleText (values : List (Option String)) : String :=
  "(" ++ ", ".intercalate (values.map valueText) ++ ")"

/-- The statement without its end. -/
def text (d : Dialect) (i : Insert) : String :=
  "INSERT INTO " ++ quoteName d i.table ++ " (" ++ quoteNames d i.columns ++ ") VALUES\n" ++
    ",\n".intercalate (i.tuples.map tupleText)

/-- A value: the word NULL or a quoted text. -/
def readValue? : Reader (Option String) := fun cs =>
  match cs.dropPrefix? "NULL".toList with
  | some rest => some (none, rest)
  | none => (Reader.quoted '\'' cs).map fun (s, rest) => (some s, rest)

def readTuple? : Reader (List (Option String)) := fun cs => do
  let cs ← cs.dropPrefix? "(".toList
  let (values, cs) ← Reader.separated readValue? ", ".toList cs
  let cs ← cs.dropPrefix? ")".toList
  return (values, cs)

/-- A statement without its end. -/
def read? (nameQuote : Char) : Reader Insert := fun cs => do
  let cs ← cs.dropPrefix? "INSERT INTO ".toList
  let (table, cs) ← Reader.quoted nameQuote cs
  let cs ← cs.dropPrefix? " (".toList
  let (columns, cs) ← Reader.separated (Reader.quoted nameQuote) ", ".toList cs
  let cs ← cs.dropPrefix? ") VALUES\n".toList
  let (tuples, cs) ← Reader.separated readTuple? ",\n".toList cs
  return (⟨table, columns, tuples⟩, cs)

/-- A value is read back, unless one more quote follows. -/
theorem readsBack_value :
    ReadsBack readValue? valueText fun rest => rest.head? ≠ some '\'' := by
  have hvalue : valueText = fun value => (value.map quoteText).getD "NULL" := by
    funext value
    cases value <;> rfl
  rw [hvalue]
  exact readsBack_wordOrText (c := 'N') (by decide) (by decide)

theorem readValue?_eq_none {rest : List Char} (h : rest.head? = some ')') :
    readValue? rest = none :=
  wordOrText_eq_none (show "NULL".toList.head? = some 'N' by decide) (by simp [h]) (by simp [h])

theorem separated_values (values : List (Option String)) (rest : List Char) :
    Reader.separated readValue? ", ".toList
      ((", ".intercalate (values.map valueText)).toList ++ (")".toList ++ rest)) =
        some (values, ")".toList ++ rest) := by
  have hhead : (")".toList ++ rest).head? = some ')' := rfl
  exact separated_intercalate (c := ',') readsBack_value (by decide) (fun more => by simp)
    (by simp) (by simp) (readValue?_eq_none hhead) values

theorem readsBack_tuple : ReadsBack readTuple? tupleText fun _ => True := by
  intro values rest _
  have htext : (tupleText values).toList ++ rest =
      "(".toList ++ ((", ".intercalate (values.map valueText)).toList ++ (")".toList ++ rest)) := by
    simp only [tupleText, String.toList_append, List.append_assoc]
  simp only [htext, readTuple?, dropPrefix?_append, separated_values, Option.bind_eq_bind,
    Option.bind_some, Option.pure_def]

theorem readTuple?_eq_none {rest : List Char} (h : rest.head? ≠ some '(') :
    readTuple? rest = none := by
  have : rest.dropPrefix? "(".toList = none := dropPrefix?_eq_none (by decide) h
  rw [readTuple?, this]
  rfl

/-- **A statement is read back, and what follows it is left alone.** -/
theorem read?_text (d : Dialect) (i : Insert) {rest : List Char} (hcomma : rest.head? ≠ some ',')
    (hopen : rest.head? ≠ some '(') :
    read? d.nameQuote ((i.text d).toList ++ rest) = some (i, rest) := by
  have hpieces : (i.text d).toList ++ rest =
      "INSERT INTO ".toList ++ ((quoteName d i.table).toList ++ (" (".toList ++
        ((quoteNames d i.columns).toList ++ (") VALUES\n".toList ++
          ((",\n".intercalate (i.tuples.map tupleText)).toList ++ rest))))) := by
    unfold text
    simp only [String.toList_append, List.append_assoc]
  have htuples : Reader.separated readTuple? ",\n".toList
      ((",\n".intercalate (i.tuples.map tupleText)).toList ++ rest) = some (i.tuples, rest) :=
    separated_intercalate (c := ',') readsBack_tuple (by decide) (fun _ => trivial) trivial hcomma
      (readTuple?_eq_none hopen) _
  simp (disch := cases d <;> simp [Dialect.nameQuote]) only [hpieces, read?, dropPrefix?_append,
    quoted_quoteName, separated_quoteNames, htuples, Option.bind_eq_bind, Option.bind_some,
    Option.pure_def]

/-- A statement is read from a text, and no other statement is written like it. -/
structure IsReadFrom (d : Dialect) (body : String) (i : Insert) : Prop where
  read : read? d.nameQuote body.toList = some (i, ";".toList)
  unique : ∀ j : Insert, j.text d ++ ";" = body → j = i

theorem isReadFrom_text (d : Dialect) (i : Insert) : i.IsReadFrom d (i.text d ++ ";") := by
  have hcomma : ";".toList.head? ≠ some ',' := by decide
  have hopen : ";".toList.head? ≠ some '(' := by decide
  have hread (j : Insert) : read? d.nameQuote (j.text d ++ ";").toList = some (j, ";".toList) := by
    rw [String.toList_append, read?_text d j hcomma hopen]
  refine ⟨hread i, ?_⟩
  intro j h
  have hj := hread j
  rw [h, hread i] at hj
  cases hj
  rfl

end Insert

/-! ## Imports -/

namespace Table

variable (t : Table) (mappings : List Mapping) (s : Sheet)

/-- The names and values that an import brings into a table. -/
def insert : Insert where
  table := t.name
  columns := (t.bindings mappings s).map (·.1)
  tuples := (s.rows.filter (!·.isEmpty)).map fun row =>
    (t.bindings mappings s).map fun (_, b) => b.value? row

theorem importTuple_eq (bindings : List (String × Binding)) (row : List Json) :
    importTuple bindings row = Insert.tupleText (bindings.map fun (_, b) => b.value? row) := by
  rw [importTuple, Insert.tupleText, List.map_map]
  rfl

theorem importStatement_of_no_bindings (d : Dialect) (hbindings : t.bindings mappings s = []) :
    t.importStatement d mappings s = "-- No mappings configured" := by
  simp only [importStatement, hbindings, List.isEmpty_nil, if_true]

theorem importStatement_of_no_rows (d : Dialect) (hbindings : t.bindings mappings s ≠ [])
    (hrows : s.rows.filter (!·.isEmpty) = []) :
    t.importStatement d mappings s = "-- Import to " ++ t.name ++ "\n" ++ "-- No data found" := by
  have hempty : ¬ (t.bindings mappings s).isEmpty = true := by simpa using hbindings
  simp only [importStatement, hrows, List.isEmpty_nil, if_true, if_neg hempty]

/-- **An import statement gives back its table, its columns and its rows.** -/
theorem importStatement_isReadFrom (d : Dialect) (hbindings : t.bindings mappings s ≠ [])
    (hrows : s.rows.filter (!·.isEmpty) ≠ []) :
    ∃ body, t.importStatement d mappings s = "-- Import to " ++ t.name ++ "\n" ++ body ∧
      (t.insert mappings s).IsReadFrom d body := by
  refine ⟨(t.insert mappings s).text d ++ ";", ?_, Insert.isReadFrom_text d _⟩
  have hempty : ¬ (t.bindings mappings s).isEmpty = true := by simpa using hbindings
  have hnone : ¬ (s.rows.filter (!·.isEmpty)).isEmpty = true := by simpa using hrows
  have htuples : (s.rows.filter (!·.isEmpty)).map (importTuple (t.bindings mappings s)) =
      (t.insert mappings s).tuples.map Insert.tupleText := by
    rw [insert, List.map_map]
    exact List.map_congr_left fun row _ => importTuple_eq _ row
  unfold importStatement Insert.text
  simp only [if_neg hempty, if_neg hnone, htuples, String.append_assoc]
  simp only [insert]

/-- What an import statement is: a note that it fills no column, a note that no row has a cell, or
an INSERT that is read back. -/
theorem importStatement_cases (d : Dialect) :
    if t.bindings mappings s = [] then t.importStatement d mappings s = "-- No mappings configured"
    else if s.rows.filter (!·.isEmpty) = [] then
      t.importStatement d mappings s = "-- Import to " ++ t.name ++ "\n" ++ "-- No data found"
    else
      ∃ body, t.importStatement d mappings s = "-- Import to " ++ t.name ++ "\n" ++ body ∧
        (t.insert mappings s).IsReadFrom d body := by
  split
  · rename_i hbindings
    exact t.importStatement_of_no_bindings mappings s d hbindings
  · rename_i hbindings
    split
    · rename_i hrows
      exact t.importStatement_of_no_rows mappings s d hbindings hrows
    · rename_i hrows
      exact t.importStatement_isReadFrom mappings s d hbindings hrows

end Table

end TableSql
