import TableSql.Proofs.Ddl.Quotes
import TableSql.Proofs.Text.Reader
import TableSql.Proofs.Validation

/-!
# The key of a Doris table

Doris wants the columns of the key to be the first ones that a table declares. A Doris table is
declared with the columns of its primary key in front, while its key is a column of a fixed name.

* `Table.KeyOrder` — an order of the columns with the primary key in front and nothing else changed.
* `dorisClauses` — the clauses behind the parentheses, for a key of any name.
* `KeyLeads` — a statement declares the column of its key first.

Principal results: `Table.keyOrder_iff` (a table has one such order, and it is the one that is
declared), `Table.keyLeads_iff` (which column is in front decides whether the key leads), and what
that means for a table that a check finds nothing in.
-/

set_option autoImplicit false

namespace TableSql

/-! ## The columns with the key in front -/

namespace Table

/-- An order of a table's columns in which those of the primary key come first, while the columns
inside and outside the key keep the order of the table among themselves. -/
structure KeyOrder (t : Table) (columns : List Column) : Prop where
  perm : columns.Perm t.columns
  keysLead : columns.Pairwise fun a b => b.isKey = true → a.isKey = true
  keys : columns.filter (·.isKey) = t.keyColumns
  others : columns.filter (!·.isKey) = t.columns.filter (!·.isKey)

/-- Columns that start with those of the key are made of the key and of what is left. -/
theorem filter_append_filter_of_keysLead {columns : List Column}
    (h : columns.Pairwise fun a b => b.isKey = true → a.isKey = true) :
    columns.filter (·.isKey) ++ columns.filter (!·.isKey) = columns := by
  induction columns with
  | nil => rfl
  | cons c columns ih =>
    rw [List.pairwise_cons] at h
    cases hc : c.isKey with
    | true => simp only [List.filter_cons, hc, if_true, Bool.not_true, Bool.false_eq_true, if_false,
        List.cons_append, ih h.2]
    | false =>
      -- behind a column outside the key there is none of the key
      have hothers : ∀ b ∈ columns, b.isKey = false := fun b hb =>
        Bool.eq_false_iff.2 fun hkey => by rw [h.1 b hb hkey] at hc; cases hc
      have hnone : (c :: columns).filter (·.isKey) = [] := by
        rw [List.filter_eq_nil_iff, List.forall_mem_cons]
        exact ⟨by simp [hc], fun b hb => by simp [hothers b hb]⟩
      have hall : (c :: columns).filter (!·.isKey) = c :: columns := by
        rw [List.filter_eq_self, List.forall_mem_cons]
        exact ⟨by simp [hc], fun b hb => by simp [hothers b hb]⟩
      rw [hnone, hall, List.nil_append]

theorem keyOrder_keysFirst (t : Table) : t.KeyOrder t.keysFirst := by
  have hkeys : ∀ c ∈ t.keyColumns, c.isKey = true := fun c hc => (mem_keyColumns.1 hc).2
  have hothers : ∀ c ∈ t.columns.filter (!·.isKey), c.isKey = false := by
    intro c hc
    simpa using List.of_mem_filter hc
  refine ⟨t.keysFirst_perm, ?_, ?_, ?_⟩
  · rw [keysFirst, List.pairwise_append]
    refine ⟨List.pairwise_of_forall_mem_list ?_, List.pairwise_of_forall_mem_list ?_, ?_⟩
    · exact fun a ha _ _ _ => hkeys a ha
    · intro a _ b hb hkey
      rw [hothers b hb] at hkey
      cases hkey
    · exact fun a ha _ _ _ => hkeys a ha
  · have hnone : (t.columns.filter (!·.isKey)).filter (·.isKey) = [] := by
      rw [List.filter_eq_nil_iff]
      exact fun c hc => by simp [hothers c hc]
    rw [keysFirst, List.filter_append, hnone, List.append_nil, List.filter_eq_self]
    exact hkeys
  · have hnone : t.keyColumns.filter (!·.isKey) = [] := by
      rw [List.filter_eq_nil_iff]
      exact fun c hc => by simp [hkeys c hc]
    rw [keysFirst, List.filter_append, hnone, List.nil_append, List.filter_filter]
    simp only [Bool.and_self]

/-- **Putting the primary key in front is the one order of the columns that changes nothing else,**
whatever columns are the same; where the key is in front already it changes nothing at all. -/
theorem keyOrder_iff (t : Table) :
    (∀ columns, t.KeyOrder columns ↔ columns = t.keysFirst) ∧
      keysFirst { t with columns := t.keysFirst } = t.keysFirst := by
  refine ⟨fun columns => ⟨fun h => ?_, ?_⟩, ?_⟩
  · rw [← filter_append_filter_of_keysLead h.keysLead, h.keys, h.others, keysFirst]
  · rintro rfl
    exact keyOrder_keysFirst t
  · exact filter_append_filter_of_keysLead (keyOrder_keysFirst t).keysLead

end Table

/-! ## Statements with their key -/

/-- The clauses behind the parentheses of a Doris table, for a key of a given name. -/
def dorisClauses (key : String) : String :=
  "\nENGINE=OLAP\nUNIQUE KEY(" ++ quoteName .doris key ++ ")\nDISTRIBUTED BY HASH(" ++
    quoteName .doris key ++ ") BUCKETS " ++ dorisBuckets ++
    "\nPROPERTIES (\n  \"replication_num\" = \"1\"\n)"

/-- The column that is named in UNIQUE KEY and in DISTRIBUTED BY HASH is the first one declared. -/
def KeyLeads (statement : String) : Prop :=
  ∃ table key rest, statement = "CREATE TABLE " ++ quoteName .doris table ++ " (\n  " ++
    quoteName .doris key ++ " " ++ rest ++ dorisClauses key ++ ";"

/-! ## Reading a statement from both ends -/

theorem firstColumn_inj {table table' key key' rest rest' : String}
    (h : "CREATE TABLE " ++ (quoteName .doris table ++ (" (\n  " ++ (quoteName .doris key ++
        (" " ++ rest)))) =
      "CREATE TABLE " ++ (quoteName .doris table' ++ (" (\n  " ++ (quoteName .doris key' ++
        (" " ++ rest'))))) : key = key' ∧ rest = rest' := by
  have hopen (more : List Char) : (" (\n  ".toList ++ more).head? ≠ some '\x60' := by simp
  have hspace (more : List Char) : (" ".toList ++ more).head? ≠ some '\x60' := by simp
  have hlist := congrArg String.toList h
  simp only [String.toList_append, toList_quoteName] at hlist
  have htable := Text.enclosedChars_append_inj (hopen _) (hopen _) (List.append_cancel_left hlist)
  have hkey := Text.enclosedChars_append_inj (hspace _) (hspace _)
    (List.append_cancel_left htable.2)
  exact ⟨String.toList_inj.1 hkey.1, String.toList_inj.1 (List.append_cancel_left hkey.2)⟩

theorem dorisClauses_inj {body body' key key' : String}
    (h : body ++ dorisClauses key = body' ++ dorisClauses key') : key = key' := by
  have hopen (front : List Char) :
      (front ++ ")\nDISTRIBUTED BY HASH(".toList).getLast? ≠ some '\x60' := by
    have hlast : ")\nDISTRIBUTED BY HASH(".toList.getLast? = some '(' := by decide
    rw [List.getLast?_append, hlast]
    simp
  -- the clauses behind the second key are the same in both
  unfold dorisClauses at h
  simp only [← String.append_assoc, String.append_left_inj] at h
  have hlist := congrArg String.toList h
  simp only [String.toList_append, toList_quoteName] at hlist
  exact String.toList_inj.1 (Text.append_enclosedChars_inj (hopen _) (hopen _) hlist).2

/-! ## Statements -/

theorem Column.exists_definition_eq (d : Dialect) (c : Column) :
    ∃ rest, c.definition d = quoteName d c.name ++ (" " ++ rest) := by
  rw [definition, ColumnClauses.render_eq]
  simp only [String.append_assoc]
  exact ⟨_, rfl⟩

namespace Table

theorem exists_createStatement_eq {t : Table} {c : Column} (h : t.keyColumn? = some c) :
    ∃ rest, t.createStatement .doris = "CREATE TABLE " ++ quoteName .doris t.name ++ (" (\n  " ++
      (quoteName .doris c.name ++ (" " ++ (rest ++ dorisClauses dorisKeyColumn ++ ";")))) := by
  rw [← head?_keysFirst] at h
  obtain ⟨cs, hcs⟩ : ∃ cs, t.keysFirst = c :: cs := by
    cases hlist : t.keysFirst with
    | nil => simp [hlist] at h
    | cons b cs => exact ⟨cs, by simpa [hlist] using h⟩
  obtain ⟨definition, hdefinition⟩ := c.exists_definition_eq .doris
  obtain ⟨more, hmore⟩ : ∃ more, ",\n".intercalate
      ((t.keysFirst.map (·.definition .doris)).map indented) =
        indented (c.definition .doris) ++ more := by
    rw [hcs, List.map_cons, List.map_cons]
    cases (cs.map (·.definition .doris)).map indented with
    | nil => exact ⟨"", by simp⟩
    | cons line lines => exact ⟨_, String.intercalate_cons_cons.trans (String.append_assoc ..)⟩
  have hoptions : dorisOptions = dorisClauses dorisKeyColumn := by
    unfold dorisOptions dorisClauses
    simp only [String.append_assoc]
  have hindent (line : String) : " (\n" ++ ("  " ++ line) = " (\n  " ++ line := by
    rw [← String.append_assoc]
    rfl
  refine ⟨definition ++ more ++ "\n)", ?_⟩
  unfold createStatement createBody
  rw [hmore, hdefinition, hoptions]
  unfold indented
  simp only [String.append_assoc, hindent]

/-- **A Doris table declares the column of its key first if and only if this column is the first one
of the primary key, or of the table where it has no primary key.** -/
theorem keyLeads_iff {t : Table} (h : t.columns ≠ []) :
    KeyLeads (t.createStatement .doris) ↔ t.keyColumn?.map (·.name) = some dorisKeyColumn := by
  obtain ⟨c, hc⟩ : ∃ c, t.keyColumn? = some c := by
    rw [← Option.ne_none_iff_exists']
    exact fun hnone => h ((t.keyColumn?_eq_none_iff).1 hnone)
  obtain ⟨rest, hstatement⟩ := exists_createStatement_eq hc
  rw [hc, Option.map_some, Option.some.injEq, hstatement]
  constructor
  · rintro ⟨table, key, rest', heq⟩
    simp only [String.append_assoc] at heq
    obtain ⟨hkey, hrest⟩ := firstColumn_inj heq
    simp only [← String.append_assoc, String.append_left_inj] at hrest
    rw [hkey, dorisClauses_inj hrest]
  · intro hkey
    refine ⟨t.name, dorisKeyColumn, rest, ?_⟩
    rw [hkey]
    simp only [String.append_assoc]

/-- **A table that a check finds nothing in has one column for the key; but only the flags of its
columns decide whether this column is declared first.** -/
theorem passed_keyLeads_iff {t : Table} (h : t.check .doris = {}) :
    (∃! c, c ∈ t.columns ∧ c.name = dorisKeyColumn) ∧
      ∃ statement, t.create? .doris = .ok statement ∧
        (KeyLeads statement ↔ t.keyColumn?.map (·.name) = some dorisKeyColumn) := by
  have hpassed := check_eq_empty_iff.1 h
  exact ⟨hpassed.existsUnique_keyColumn, _, create?_eq_ok .doris hpassed.columns,
    keyLeads_iff hpassed.columns⟩

/-- A table whose key stands behind other columns, and in front of the rest of the primary key. -/
theorem passed_keyLeads_events :
    let t : Table :=
      { name := "events"
        columns := [
          { name := "payload", typeName := "text" },
          { name := "id", typeName := "bigint", isKey := true },
          { name := "tenant", typeName := "int", isKey := true }] }
    t.check .doris = {} ∧ ∃ statement, t.create? .doris = .ok statement ∧ KeyLeads statement := by
  intro t
  have hcheck : t.check .doris = {} := by decide
  obtain ⟨-, statement, hstatement, hleads⟩ := passed_keyLeads_iff hcheck
  exact ⟨hcheck, statement, hstatement, hleads.2 rfl⟩

/-- A table without a primary key keeps its order, also where the key comes second. -/
theorem passed_key_not_leading :
    let t : Table :=
      { name := "logs"
        columns := [
          { name := "name", typeName := "int" },
          { name := "id", typeName := "int" }] }
    t.check .doris = {} ∧ ∃ statement, t.create? .doris = .ok statement ∧ ¬ KeyLeads statement := by
  intro t
  have hcolumns : t.columns ≠ [] := by decide
  have hfirst : ¬ t.keyColumn?.map (·.name) = some dorisKeyColumn := by decide
  refine ⟨by decide, _, create?_eq_ok .doris hcolumns, ?_⟩
  rwa [keyLeads_iff hcolumns]

end Table

end TableSql
