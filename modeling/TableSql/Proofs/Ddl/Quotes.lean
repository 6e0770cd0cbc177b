import TableSql.Ddl.CreateTable
import TableSql.Proofs.Text.Scan

/-!
# Quotes in CREATE TABLE

Names and comments go into a statement between quotes; types, default values and the engine go in as
they are.

* `Column.Plain` — a column whose type and default value hold no quotes.
* `Column.parts` — the quoted parts of a column's definition.

Principal results: `Column.Plain.yields_definition` (a definition has just these parts),
`yields_createBody` (the parts of the lines add up), and what a scan of a whole MySQL or Doris
statement finds.
-/

set_option autoImplicit false

namespace TableSql

variable {d : Dialect}

/-! ## Marks of a dialect -/

theorem Dialect.nameQuote_not_upper (d : Dialect) : d.nameQuote.isUpper = false := by
  cases d <;> decide

theorem Dialect.nameQuote_not_digit (d : Dialect) : d.nameQuote.isDigit = false := by
  cases d <;> decide

/-! ## Columns -/

/-- A column whose type and default value hold no quotes. -/
structure Column.Plain (nameQuote : Char) (c : Column) : Prop where
  typeName : Unquoted nameQuote c.typeName
  default? : ∀ value ∈ c.default?, Unquoted nameQuote value

/-- The quoted parts of a column's definition. -/
def Column.parts (d : Dialect) (c : Column) : List Quotation :=
  .name c.name :: if d.hasInlineComments then c.commentText.toList.map .text else []

theorem unquoted_typeName (isKey : Bool) {upper : String} (h : Unquoted d.nameQuote upper) :
    Unquoted d.nameQuote (d.typeName isKey upper) := by
  rcases d.typeName_cases isKey upper with ⟨-, -, -, hname⟩ | hother | hsame
  · rw [hname]
    cases d <;> decide
  · have hplain : ∀ names ∈ Dialect.otherTypeNames, Unquoted d.nameQuote names.2 := by
      cases d <;> decide
    exact hplain _ hother
  · rwa [hsame]

theorem LengthText.unquoted {s : String} (h : LengthText s) : Unquoted d.nameQuote s := by
  refine h.induction ?_ .append ?_ ?_ ?_ (.number d.nameQuote_not_digit)
  all_goals cases d <;> decide

theorem unquoted_defaultExpression {value : String} (h : Unquoted d.nameQuote value) :
    Unquoted d.nameQuote (d.defaultExpression value) := by
  cases d <;> simp only [Dialect.defaultExpression]
  case oracle =>
    split
    · decide
    · exact h
  all_goals exact h

namespace Column.Plain

variable {c : Column}

theorem unquoted_fullType (h : c.Plain d.nameQuote) :
    Unquoted d.nameQuote (c.clauses d).fullType := by
  have htoken : Unquoted d.nameQuote (c.typeToken d) :=
    unquoted_typeName c.isKey (h.typeName.strip.asciiUpper d.nameQuote_not_upper)
  rw [Column.fullType_clauses]
  exact htoken.append (c.lengthText_lengthClause d).unquoted

theorem unquoted_default (h : c.Plain d.nameQuote) :
    ∀ clause ∈ (c.clauses d).default?, Unquoted d.nameQuote clause := by
  intro clause hclause
  simp only [clauses, nonEmpty?, Option.mem_def, Option.map_eq_some_iff, Option.filter_eq_some_iff]
    at hclause
  obtain ⟨value, ⟨⟨hvalue, -⟩, -⟩, rfl⟩ := hclause
  have hword : Unquoted d.nameQuote "DEFAULT " := by cases d <;> decide
  exact hword.append (unquoted_defaultExpression (h.default? value hvalue))

end Column.Plain

/-- A definition: the name, the type, and the clauses that are there, each behind a space. -/
theorem ColumnClauses.render_eq (s : ColumnClauses) (quotedName : String) :
    s.render quotedName = quotedName ++ (" " ++ s.fullType) ++
      (s.notNull.map (" " ++ ·)).getD "" ++ (s.autoNumber.map (" " ++ ·)).getD "" ++
      (s.default?.map (" " ++ ·)).getD "" ++ (s.comment.map (" " ++ ·)).getD "" := by
  obtain ⟨token, length, notNull, autoNumber, value, comment⟩ := s
  cases notNull <;> cases autoNumber <;> cases value <;> cases comment <;>
    simp [render, fullType, String.append_assoc]

theorem yields_optional_clause {o : Option String}
    (h : ∀ clause ∈ o, Unquoted d.nameQuote clause) :
    Yields d.nameQuote ((o.map (" " ++ ·)).getD "") [] := by
  have hspace : Unquoted d.nameQuote " " := by cases d <;> decide
  cases o with
  | none => exact Unquoted.yields (by simp [Unquoted])
  | some clause => exact (hspace.append (h clause rfl)).yields

theorem Column.commentClause_eq (hd : d.hasInlineComments = true) (c : Column) :
    ((c.clauses d).comment.map (" " ++ ·)).getD "" =
      (c.commentText.map fun text => " COMMENT " ++ quoteText text).getD "" := by
  have hlead : ((" " ++ ·) ∘ fun text => "COMMENT " ++ quoteText text) =
      fun text => " COMMENT " ++ quoteText text := by
    funext text
    rw [Function.comp_apply, ← String.append_assoc]
    rfl
  simp only [clauses, if_pos hd, Option.map_map, hlead]

theorem yields_comment_clause (c : Column) :
    Yields d.nameQuote (((c.clauses d).comment.map (" " ++ ·)).getD "")
      (if d.hasInlineComments then c.commentText.toList.map .text else []) := by
  split
  · rename_i hd
    rw [Column.commentClause_eq hd]
    exact yields_optional_text (by cases d <;> decide) (by decide) c.commentText
  · rename_i hd
    simp only [Column.clauses, if_neg hd]
    exact Unquoted.yields (by simp [Unquoted])

/-- **A line of a definition has just the quotes around the name and the comment.** -/
theorem Column.Plain.yields_definition {c : Column} (h : c.Plain d.nameQuote) :
    Yields d.nameQuote (indented (c.definition d)) (c.parts d) := by
  have hname : Yields d.nameQuote ("  " ++ quoteName d c.name) [.name c.name] :=
    yields_name (by cases d <;> decide) (by decide) c.name
  have hspace : Unquoted d.nameQuote " " := by cases d <;> decide
  have hnotNull : ∀ clause ∈ (c.clauses d).notNull, Unquoted d.nameQuote clause := by
    intro clause hc
    simp only [clauses, Option.mem_def] at hc
    split at hc <;> cases hc
    cases d <;> decide
  have hauto : ∀ clause ∈ (c.clauses d).autoNumber, Unquoted d.nameQuote clause := by
    intro clause hc
    simp only [clauses, Option.mem_def] at hc
    split at hc
    · cases d <;> cases hc <;> decide
    · cases hc
  have hline := ((((hname.append_plain (hspace.append h.unquoted_fullType)).append
    (yields_optional_clause hnotNull)).append (yields_optional_clause hauto)).append
    (yields_optional_clause h.unquoted_default)).append (yields_comment_clause c)
  rw [indented, definition, ColumnClauses.render_eq]
  simpa [parts, String.append_assoc] using hline

/-! ## Statements -/

theorem yields_createBody {lines : List String} {pss : List (List Quotation)} (table : String)
    (h : List.Forall₂ (Yields d.nameQuote) (lines.map indented) pss) :
    Yields d.nameQuote (createBody d table lines) (.name table :: pss.flatten) := by
  have hhead : Yields d.nameQuote ("CREATE TABLE " ++ quoteName d table) [.name table] :=
    yields_name (by cases d <;> decide) (by decide) table
  have hlines := Yields.intercalate (show Unquoted d.nameQuote ",\n" by cases d <;> decide) h
  have hopen : Unquoted d.nameQuote " (\n" := by cases d <;> decide
  have hclose : Unquoted d.nameQuote "\n)" := by cases d <;> decide
  exact (((hhead.append_plain hopen).append hlines).append_plain hclose)

theorem yields_columnLines {columns : List Column} (h : ∀ c ∈ columns, c.Plain d.nameQuote) :
    List.Forall₂ (Yields d.nameQuote) ((columns.map (·.definition d)).map indented)
      (columns.map (·.parts d)) := by
  rw [List.map_map, Text.forall₂_map_map]
  exact fun c hc => (h c hc).yields_definition

theorem yields_keyLine {words : String} {t : Table}
    (hwords : t.keyColumns ≠ [] → Unquoted d.nameQuote words) :
    ∃ pss, List.Forall₂ (Yields d.nameQuote) ((t.keyLine words d).toList.map indented) pss ∧
      pss.flatten = t.keyNames.map .name := by
  by_cases hk : t.keyColumns = []
  · refine ⟨[], ?_, ?_⟩
    · simp [Table.keyLine, hk]
    · simp [Table.keyNames, hk]
  · have hlead : Unquoted d.nameQuote ("  " ++ words ++ "PRIMARY KEY (") :=
      Unquoted.append (Unquoted.append (by cases d <;> decide) (hwords hk)) (by cases d <;> decide)
    have hclose : Unquoted d.nameQuote ")" := by cases d <;> decide
    have hline := (yields_names hlead (by simp) t.keyNames).append_plain hclose
    refine ⟨[t.keyNames.map .name], ?_, by simp⟩
    simpa [Table.keyLine, hk, indented, String.append_assoc] using hline

theorem yields_createBody_keyLine {words : String} {t : Table}
    (hwords : t.keyColumns ≠ [] → Unquoted d.nameQuote words)
    (h : ∀ c ∈ t.columns, c.Plain d.nameQuote) :
    Yields d.nameQuote
      (createBody d t.name (t.columns.map (·.definition d) ++ (t.keyLine words d).toList))
      (.name t.name :: ((t.columns.map (·.parts d)).flatten ++ t.keyNames.map .name)) := by
  obtain ⟨pss, hline, hflat⟩ := yields_keyLine hwords
  rw [← hflat, ← List.flatten_append]
  refine yields_createBody t.name ?_
  rw [List.map_append]
  exact List.rel_append (yields_columnLines h) hline

/-! ## What the parts are -/

@[simp] theorem names_columnParts (columns : List Column) :
    Quotation.names (columns.map (·.parts d)).flatten = columns.map (·.name) := by
  induction columns with
  | nil => rfl
  | cons c cs ih =>
    rw [List.map_cons, List.flatten_cons, Quotation.names_append, ih, Column.parts]
    split <;> simp

theorem texts_columnParts (hd : d.hasInlineComments = true) (columns : List Column) :
    Quotation.texts (columns.map (·.parts d)).flatten = columns.filterMap (·.commentText) := by
  induction columns with
  | nil => rfl
  | cons c cs ih =>
    rw [List.map_cons, List.flatten_cons, Quotation.texts_append, ih, Column.parts, if_pos hd,
      Quotation.texts_name_cons, Quotation.texts_map_text]
    cases hc : c.commentText <;> simp [hc]

theorem texts_columnParts_eq_nil (hd : d.hasInlineComments = false) (columns : List Column) :
    Quotation.texts (columns.map (·.parts d)).flatten = [] := by
  induction columns with
  | nil => rfl
  | cons c cs ih => simpa [Column.parts, hd] using ih

/-! ## MySQL and Doris -/

theorem yields_mysqlOptions {t : Table} (h : ∀ engine ∈ t.engine, Unquoted '\x60' engine) :
    Yields '\x60' t.mysqlOptions (t.commentText.toList.map .text) := by
  have hengine : Unquoted '\x60' (((t.engine.map Text.strip).filter (· ≠ "")).getD "InnoDB") := by
    cases ht : t.engine with
    | none => decide
    | some engine =>
      rw [Option.map_some, Option.filter_some]
      split
      · exact (h engine ht).strip
      · decide
  have hplain := ((show Unquoted '\x60' " ENGINE=" by decide).append hengine).append
    (show Unquoted '\x60' " DEFAULT CHARSET=utf8mb4" by decide)
  exact hplain.yields.append
    (yields_optional_text (d := .mysql) (by decide) (by decide) t.commentText)

theorem yields_dorisOptions :
    Yields '\x60' Table.dorisOptions [.name dorisKeyColumn, .name dorisKeyColumn] := by
  have hkey := yields_name (d := .doris)
    (show Unquoted '\x60' "\nENGINE=OLAP\nUNIQUE KEY(" by decide) (by decide) dorisKeyColumn
  have hhash := yields_name (d := .doris)
    (show Unquoted '\x60' ")\nDISTRIBUTED BY HASH(" by decide) (by decide) dorisKeyColumn
  have hrest : Unquoted '\x60' (") BUCKETS " ++ (dorisBuckets ++
      "\nPROPERTIES (\n  \"replication_num\" = \"1\"\n)")) := by decide
  have := (hkey.append hhash).append_plain hrest
  -- `unfold`, since rewriting with the equation of a closed text would evaluate it
  unfold Table.dorisOptions
  simp only [String.append_assoc] at this ⊢
  exact this

end TableSql
