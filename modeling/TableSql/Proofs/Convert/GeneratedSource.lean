import TableSql.Proofs.Convert.TableComment
import TableSql.Proofs.Ddl.Quotes

/-!
# Conversions from a generated statement

Where a statement gives its table no comment, the search takes the last comment there is. In a MySQL
statement that was generated for a table without a comment this is the comment of a column.

Principal results: `findTableComment_createStatement` (what the search finds in a generated
statement) and `conversions_of_generated` (what both conversions make of it).
-/

set_option autoImplicit false

namespace TableSql

/-! ## Columns -/

section Column

variable {c : Column}

theorem Column.Quiet.wordless_fullType (h : c.Quiet) : Wordless (c.clauses .mysql).fullType := by
  have htoken : Wordless (c.typeToken .mysql) := h.typeName.strip.asciiUpper.wordless
  rw [Column.fullType_clauses]
  exact htoken.append (c.lengthText_lengthClause .mysql).silent

theorem silent_optional_clause {o : Option String} (h : ∀ clause ∈ o, Wordless clause) :
    Silent ((o.map (" " ++ ·)).getD "") := by
  cases o with
  | none => exact (show Silent "" by decide)
  | some clause => exact .space (h clause rfl)

/-- **A generated line of a column without a default value has no comment but its own.** -/
theorem Column.Quiet.columnComments_definition (h : c.Quiet) (hdefault : c.default? = none) :
    ColumnComments (indented (c.definition .mysql)) c.commentText.toList := by
  have hname : Silent ("  " ++ quoteName .mysql c.name) :=
    (show Silent "  " by decide).append (.quoteName .mysql h.name.wordless)
  have hnotNull : ∀ clause ∈ (c.clauses .mysql).notNull, Wordless clause := by
    intro clause hc
    simp only [clauses, Option.mem_def] at hc
    split at hc <;> cases hc
    decide
  have hauto : ∀ clause ∈ (c.clauses .mysql).autoNumber, Wordless clause := by
    intro clause hc
    simp only [clauses, Option.mem_def] at hc
    split at hc <;> cases hc
    decide
  have hvalue : (c.clauses .mysql).default? = none := by simp [clauses, hdefault, nonEmpty?]
  have hline := ((hname.append (.space h.wordless_fullType)).append
    (silent_optional_clause hnotNull)).append (silent_optional_clause hauto)
  have hall := ColumnComments.silent_append hline (columnComments_commentClause h)
  rw [indented, definition, ColumnClauses.render_eq, hvalue, commentClause_eq (d := .mysql) rfl]
  simpa [String.append_assoc] using hall

end Column

/-! ## The statement -/

section Statement

variable {t : Table}

/-- A generated MySQL statement behind CREATE TABLE, without a comment of the table. -/
def Table.generatedHead (t : Table) : String :=
  createBehind .mysql t.name
      (t.columns.map (·.definition .mysql) ++ (t.keyLine "" .mysql).toList) ++
    " ENGINE=InnoDB DEFAULT CHARSET=utf8mb4"

theorem createStatement_eq (hcomment : t.commentText = none) (hengine : t.engine = none) :
    t.createStatement .mysql = "CREATE TABLE" ++ t.generatedHead ++ ";" := by
  have hoptions : t.mysqlOptions = " ENGINE=InnoDB DEFAULT CHARSET=utf8mb4" := by
    unfold Table.mysqlOptions
    rw [hcomment, hengine]
    rfl
  unfold Table.createStatement Table.generatedHead
  simp only [createBody_eq, hoptions, String.append_assoc]

theorem columnComments_generatedHead (h : t.Quiet)
    (hdefaults : ∀ c ∈ t.columns, c.default? = none) :
    ColumnComments t.generatedHead (t.columns.filterMap (·.commentText)) :=
  (h.columnComments_lines .mysql fun c hc =>
    (h.columns c hc).columnComments_definition (hdefaults c hc)).append_silent (by decide)

/-- **In a generated statement without a comment of the table the search finds the last comment of a
column.** -/
theorem findTableComment_createStatement (h : t.Quiet) (hcomment : t.commentText = none)
    (hengine : t.engine = none) (hdefaults : ∀ c ∈ t.columns, c.default? = none)
    (hquoteless : ∀ c ∈ t.columns, ∀ text ∈ c.comment, Quoteless text) :
    findTableComment (t.createStatement .mysql) =
      (t.columns.filterMap (·.commentText)).getLast? := by
  have hhead := columnComments_generatedHead h hdefaults
  have hstatement : (t.createStatement .mysql).toList =
      "CREATE TABLE".toList ++ (t.generatedHead.toList ++ [';']) := by
    rw [createStatement_eq hcomment hengine, String.toList_append, String.toList_append,
      List.append_assoc]
    rfl
  have hapart : Apart [';'] := ⟨rfl, rfl⟩
  have htexts : ∀ text ∈ t.columns.filterMap (·.commentText), Quoteless text ∧ text ≠ "" := by
    intro text htext
    obtain ⟨c, hc, htext⟩ := List.mem_filterMap.1 htext
    rw [Column.commentText, nonEmpty?_eq_some_iff] at htext
    exact ⟨hquoteless c hc text htext.1, htext.2⟩
  have hoption (closed : Bool) : optionComment? closed [';'] = none := by cases closed <;> rfl
  have hsearch : ((keyComment? (t.createStatement .mysql).toList).or
      (optionComment? false (t.createStatement .mysql).toList)).or
      (lastComment? 0 (t.createStatement .mysql).toList) =
      (t.columns.filterMap (·.commentText)).getLast?.map String.toList := by
    rw [hstatement, keyComment?_statement hhead hapart, optionComment?_statement hhead hapart,
      lastComment?_statement hhead hapart fun text htext => (htexts text htext).1, hoption]
    rfl
  cases hlast : (t.columns.filterMap (·.commentText)).getLast? with
  | none =>
    rw [hlast] at hsearch
    unfold findTableComment
    simp only [hsearch]
    rfl
  | some last =>
    rw [hlast] at hsearch
    have hne : last ≠ "" := (htexts last (List.mem_of_getLast? hlast)).2
    rw [findTableComment_eq hsearch, String.ofList_toList]
    exact nonEmpty?_eq_some_iff.2 ⟨rfl, hne⟩

end Statement

/-! ## Conversions -/

section Conversions

variable {t : Table} {source : String}

theorem conversions_of_resolved {comment : Option String}
    (h : t.resolvedComment source = comment) :
    t.toDoris source = t.dorisWith (comment.getD t.name) ∧
      t.toMysql source = t.mysqlWith comment := by
  rw [Table.toDoris_eq, Table.toMysql_eq, h]
  exact ⟨rfl, rfl⟩

/-- **From a generated statement both conversions take the last comment of a column for the comment
of the table.** Where there is none they use the name of the table, or no comment. -/
theorem conversions_of_generated (h : t.Quiet) (hcolumns : t.columns ≠ [])
    (hcomment : t.commentText = none) (hengine : t.engine = none)
    (hdefaults : ∀ c ∈ t.columns, c.default? = none)
    (hquoteless : ∀ c ∈ t.columns, ∀ text ∈ c.comment, Quoteless text) :
    t.toDoris "" = t.dorisWith t.name ∧ t.toMysql "" = t.mysqlWith none ∧
    ∃ source, t.create? .mysql = .ok source ∧
      ((∀ c ∈ t.columns, c.commentText = none) →
        t.toDoris source = t.toDoris "" ∧ t.toMysql source = t.toMysql "") ∧
      ∀ last, (t.columns.filterMap (·.commentText)).getLast? = some last →
        t.toDoris source = ({ t with comment := some last } : Table).toDoris "" ∧
        t.toMysql source = ({ t with comment := some last } : Table).toMysql "" := by
  have hown := conversions_of_resolved ((resolvedComment_nil t).trans hcomment)
  have hfound := findTableComment_createStatement h hcomment hengine hdefaults hquoteless
  refine ⟨hown.1, hown.2, _, Table.create?_eq_ok .mysql hcolumns, fun hnone => ?_,
    fun last hlast => ?_⟩
  · have hlast : (t.columns.filterMap (·.commentText)).getLast? = none := by
      rw [List.getLast?_eq_none_iff, List.filterMap_eq_nil_iff]
      exact hnone
    have hresolved : t.resolvedComment (t.createStatement .mysql) = none := by
      rw [Table.resolvedComment, hfound, hlast, hcomment]
      rfl
    have hsource := conversions_of_resolved hresolved
    exact ⟨hsource.1.trans hown.1.symm, hsource.2.trans hown.2.symm⟩
  · have hresolved : t.resolvedComment (t.createStatement .mysql) = some last :=
      resolvedComment_of_found (hfound.trans hlast) t
    have hne : last ≠ "" := by
      obtain ⟨c, -, htext⟩ := List.mem_filterMap.1 (List.mem_of_getLast? hlast)
      exact (nonEmpty?_eq_some_iff.1 htext).2
    have hcommented := conversions_of_resolved
      ((resolvedComment_nil { t with comment := some last }).trans (commentText_eq rfl hne))
    have hsource := conversions_of_resolved hresolved
    exact ⟨hsource.1.trans hcommented.1.symm, hsource.2.trans hcommented.2.symm⟩

/-- A table of which two columns have comments. -/
theorem conversions_of_generated_commented :
    let t : Table :=
      { name := "users"
        columns := [
          { name := "id", typeName := "bigint", nullable := false, isKey := true,
            comment := some "identifier" },
          { name := "mail", typeName := "varchar", length := some 64, comment := some "address" },
          { name := "age", typeName := "int" }] }
    (t.Quiet ∧ t.columns ≠ [] ∧ t.commentText = none ∧ t.engine = none ∧
      (∀ c ∈ t.columns, c.default? = none) ∧
      ∀ c ∈ t.columns, ∀ text ∈ c.comment, Quoteless text) ∧
    t.toDoris "" = t.dorisWith "users" ∧ t.toMysql "" = t.mysqlWith none ∧
    ∃ source, t.create? .mysql = .ok source ∧
      t.toDoris source = ({ t with comment := some "address" } : Table).toDoris "" ∧
      t.toMysql source = ({ t with comment := some "address" } : Table).toMysql "" := by
  intro t
  have hquiet : t.Quiet := by decide +kernel
  have hcolumns : t.columns ≠ [] := List.cons_ne_nil _ _
  have hdefaults : ∀ c ∈ t.columns, c.default? = none := by decide
  have hquoteless : ∀ c ∈ t.columns, ∀ text ∈ c.comment, Quoteless text := by decide
  obtain ⟨hdoris, hmysql, source, hsource, -, hlast⟩ :=
    conversions_of_generated hquiet hcolumns rfl rfl hdefaults hquoteless
  exact ⟨⟨hquiet, hcolumns, rfl, rfl, hdefaults, hquoteless⟩, hdoris, hmysql, source, hsource,
    hlast "address" rfl⟩

/-- A comment of a column that becomes the comment of the table. -/
theorem column_comment_taken_for_table :
    let t : Table :=
      { name := "users"
        columns := [{ name := "id", typeName := "int", comment := some "identifier" }] }
    t.Quiet ∧ t.commentText = none ∧
      ∃ source, t.create? .mysql = .ok source ∧ findTableComment source = some "identifier" ∧
        t.toDoris source ≠ t.toDoris "" ∧ t.toMysql source ≠ t.toMysql "" := by
  refine ⟨by decide +kernel, rfl, _, rfl, ?_⟩
  decide +kernel

end Conversions

end TableSql
