import TableSql.Data.Table
import TableSql.Proofs.Convert.Statement
import TableSql.Proofs.Text.Reader

/-!
# Keys without NULL

A conversion to MySQL declares each column with the word NULL or the words NOT NULL, and names the
columns of the primary key in a line of its own. The words and the line come from two flags that
know nothing of each other.

* `Nullability` — the two ways to declare a column.
* `Column.declaration` — the line of a column that is declared in one of them.
* `Table.DeclaresAs` — a statement declares the columns of a table in these ways, and then its key.

Principal results: `Table.DeclaresAs.unique` (a statement tells how each column is declared),
`Table.declaresAs_toMysql`, and from them when a conversion declares all columns of the key NOT NULL.
-/

set_option autoImplicit false

namespace TableSql

/-! ## Declarations -/

/-- The two ways to declare a column. -/
inductive Nullability where
  | null
  | notNull
  deriving DecidableEq, Repr

namespace Nullability

/-- The words in a declaration. -/
def words : Nullability → String
  | null => " NULL"
  | notNull => " NOT NULL"

theorem words_append_inj {n n' : Nullability} {a b : List Char}
    (h : n.words.toList ++ a = n'.words.toList ++ b) : n = n' ∧ a = b := by
  cases n with
  | null =>
    cases n' with
    | null => exact ⟨rfl, List.append_cancel_left h⟩
    | notNull => simp [words] at h
  | notNull =>
    cases n' with
    | null => simp [words] at h
    | notNull => exact ⟨rfl, List.append_cancel_left h⟩

end Nullability

namespace Column

def nullability (c : Column) : Nullability := if c.nullable then .null else .notNull

theorem nullability_eq_notNull_iff (c : Column) : c.nullability = .notNull ↔ c.nullable = false := by
  unfold nullability
  cases c.nullable <;> simp

/-- The line of a column that is declared in one of the two ways. -/
def declaration (c : Column) (n : Nullability) : String :=
  quoteName .mysql c.name ++ " " ++ c.mysqlType ++ n.words ++ c.commentSuffix

theorem mysqlLine_eq (c : Column) : c.mysqlLine = c.declaration c.nullability := by
  unfold mysqlLine declaration nullability
  cases c.nullable <;> rfl

end Column

/-- The lines of columns that are declared in some ways, each behind a separator. -/
def declarations (columns : List Column) (ways : List Nullability) : List Char :=
  (List.zipWith Column.declaration columns ways).flatMap fun line =>
    ",\n".toList ++ (indented line).toList

/-- **Declarations tell their ways, whatever follows them.** -/
theorem declarations_append_inj {columns : List Column} {ways ways' : List Nullability}
    (hways : ways.length = columns.length) (hways' : ways'.length = columns.length)
    {a b : List Char} (h : declarations columns ways ++ a = declarations columns ways' ++ b) :
    ways = ways' := by
  induction columns generalizing ways ways' with
  | nil => rw [List.length_eq_zero_iff.1 hways, List.length_eq_zero_iff.1 hways']
  | cons c cs ih =>
    obtain ⟨n, ns, rfl⟩ := List.exists_cons_of_length_eq_add_one hways
    obtain ⟨n', ns', rfl⟩ := List.exists_cons_of_length_eq_add_one hways'
    have hpieces (n : Nullability) (ns : List Nullability) (more : List Char) :
        declarations (c :: cs) (n :: ns) ++ more =
          (",\n".toList ++ ("  " ++ (quoteName .mysql c.name ++ (" " ++ c.mysqlType))).toList) ++
            (n.words.toList ++ (c.commentSuffix.toList ++ (declarations cs ns ++ more))) := by
      unfold declarations indented Column.declaration
      simp only [List.zipWith_cons_cons, List.flatMap_cons, String.toList_append, List.append_assoc]
    rw [hpieces, hpieces] at h
    obtain ⟨rfl, hrest⟩ := Nullability.words_append_inj (List.append_cancel_left h)
    rw [ih (by simpa using hways) (by simpa using hways') (List.append_cancel_left hrest)]

namespace Table

/-- Between its parentheses, a statement declares the columns of a table one by one in these ways,
and then its primary key. -/
def DeclaresAs (t : Table) (statement : String) (ways : List Nullability) : Prop :=
  ways.length = t.columns.length ∧ ∃ behind, statement =
    createBody .mysql t.name
      (List.zipWith Column.declaration t.columns ways ++ (t.keyLine "" .mysql).toList) ++ behind

/-- The text behind the opening parenthesis of such a statement. -/
theorem exists_createBody_eq {t : Table} (hcolumns : t.columns ≠ []) {ways : List Nullability}
    (hways : ways.length = t.columns.length) (behind : String) :
    ∃ lines more, (createBody .mysql t.name (List.zipWith Column.declaration t.columns ways ++
        (t.keyLine "" .mysql).toList) ++ behind).toList =
          ("CREATE TABLE " ++ (quoteName .mysql t.name ++ " (\n")).toList ++ lines ∧
      ",\n".toList ++ lines = declarations t.columns ways ++ more := by
  obtain ⟨c, cs, hcs⟩ := List.exists_cons_of_ne_nil hcolumns
  rw [hcs] at hways ⊢
  obtain ⟨n, ns, rfl⟩ := List.exists_cons_of_length_eq_add_one hways
  refine ⟨(",\n".intercalate ((List.zipWith Column.declaration (c :: cs) (n :: ns) ++
      (t.keyLine "" .mysql).toList).map indented)).toList ++ ("\n)" ++ behind).toList,
    ((t.keyLine "" .mysql).toList.flatMap fun line => ",\n".toList ++ (indented line).toList) ++
      ("\n)" ++ behind).toList, ?_, ?_⟩
  · unfold createBody
    simp only [String.toList_append, List.append_assoc]
  · unfold declarations
    simp only [List.zipWith_cons_cons, List.cons_append, List.map_cons, toList_intercalate_cons,
      List.flatMap_cons, List.flatMap_map, List.flatMap_append, String.toList_append,
      List.append_assoc]

/-- **A statement tells how each column is declared.** -/
theorem DeclaresAs.unique {t : Table} {statement : String} {ways ways' : List Nullability}
    (h : t.DeclaresAs statement ways) (h' : t.DeclaresAs statement ways') : ways = ways' := by
  obtain ⟨hways, behind, rfl⟩ := h
  obtain ⟨hways', behind', hstatement⟩ := h'
  by_cases hcolumns : t.columns = []
  · rw [hcolumns] at hways hways'
    rw [List.length_eq_zero_iff.1 hways, List.length_eq_zero_iff.1 hways']
  · obtain ⟨lines, more, hbody, hlines⟩ := exists_createBody_eq hcolumns hways behind
    obtain ⟨lines', more', hbody', hlines'⟩ := exists_createBody_eq hcolumns hways' behind'
    rw [hstatement, hbody'] at hbody
    rw [List.append_cancel_left hbody, hlines] at hlines'
    exact declarations_append_inj hways hways' hlines'

/-- **A conversion declares each column as its flag says.** -/
theorem declaresAs_toMysql (t : Table) (source : String) :
    t.DeclaresAs (t.toMysql source) (t.columns.map (·.nullability)) := by
  refine ⟨List.length_map _, " ENGINE=InnoDB DEFAULT CHARSET=utf8mb4" ++
    (((t.resolvedComment source).map fun text => " COMMENT=" ++ quoteText text).getD "" ++ ";"), ?_⟩
  rw [List.zipWith_map_right, List.zipWith_self]
  simp only [← Column.mysqlLine_eq]
  unfold toMysql Column.mysqlLine
  simp only [String.append_assoc]

/-- **A conversion declares all columns of the primary key NOT NULL just if none of them is flagged
to allow NULL.** -/
theorem keys_declared_notNull_iff (t : Table) (source : String) :
    ∃ ways, (∀ ways', t.DeclaresAs (t.toMysql source) ways' ↔ ways' = ways) ∧
      ((∀ p ∈ t.columns.zip ways, p.1.isKey = true → p.2 = .notNull) ↔
        ∀ c ∈ t.columns, c.isKey = true → c.nullable = false) := by
  have hdeclares := t.declaresAs_toMysql source
  refine ⟨_, fun ways' => ⟨fun h => h.unique hdeclares, fun h => h ▸ hdeclares⟩, ?_⟩
  rw [← List.map_prod_left_eq_zip]
  simp [Column.nullability_eq_notNull_iff]

/-- A record that says nothing about NULL describes a column that allows it, and so a key column is
declared NULL next to the line of the key. -/
theorem recorded_key_declared_null :
    let record : Json := .object [("name", .string "users"), ("columns", .array [
      .object [("name", .string "id"), ("type", .string "bigint"), ("is_primary_key", .bool true)]])]
    ∃ t, Table.read? Json.format record = some t ∧
      t.toMysql "" = "CREATE TABLE `users` (\n  `id` BIGINT NULL,\n  PRIMARY KEY (`id`)\n) " ++
        "ENGINE=InnoDB DEFAULT CHARSET=utf8mb4;" ∧
      ∀ ways, t.DeclaresAs (t.toMysql "") ways →
        ¬ ∀ p ∈ t.columns.zip ways, p.1.isKey = true → p.2 = .notNull := by
  intro record
  let t : Table :=
    { name := "users", columns := [{ name := "id", typeName := "bigint", isKey := true }] }
  have hways := t.declaresAs_toMysql ""
  refine ⟨t, by decide +kernel, by decide +kernel, fun ways h => ?_⟩
  rw [h.unique hways]
  decide

end Table

end TableSql
