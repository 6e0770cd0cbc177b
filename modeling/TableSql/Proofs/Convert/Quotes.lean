import TableSql.Proofs.Convert.Statement
import TableSql.Proofs.Ddl.Quotes

/-!
# Quotes in a conversion

As in CREATE TABLE, names and comments go into a conversion between quotes and types go in as they
are; the comment of the source statement is one more text.

Principal results: `Column.yields_line` (a line has just the quotes around the name and the
comment), and what a scan of either conversion finds.
-/

set_option autoImplicit false

namespace TableSql

/-! ## Types -/

namespace Column

variable {c : Column}

theorem unquoted_typeText (h : Unquoted '\x60' c.typeName) : Unquoted '\x60' c.typeText := by
  obtain ⟨length, hlength, htype⟩ := c.exists_typeText_eq
  rw [htype]
  exact (h.strip.upper (by decide) (by decide) (by decide)).append (hlength.unquoted (d := .mysql))

theorem unquoted_dorisType (h : Unquoted '\x60' c.typeName) : Unquoted '\x60' c.dorisType := by
  have hplain : ∀ type ∈ dorisTypes, Unquoted '\x60' type := by decide
  rcases c.dorisType_mem_or_eq with hmem | ⟨-, htype⟩
  · exact hplain _ hmem
  · rw [htype]
    exact unquoted_typeText h

theorem unquoted_mysqlType (h : Unquoted '\x60' c.typeName) : Unquoted '\x60' c.mysqlType := by
  unfold mysqlType
  split
  · decide
  · decide
  · exact unquoted_typeText h

/-! ## Lines -/

/-- **A line has just the quotes around the name and the comment.** -/
theorem yields_line {d : Dialect} (hd : d.hasInlineComments = true) (c : Column) {type : String}
    (h : Unquoted d.nameQuote type) :
    Yields d.nameQuote (indented (quoteName d c.name ++ " " ++ type ++ c.commentSuffix))
      (c.parts d) := by
  have hname : Yields d.nameQuote ("  " ++ quoteName d c.name) [.name c.name] :=
    yields_name (by cases d <;> decide) (by decide) c.name
  have hspace : Unquoted d.nameQuote " " := by cases d <;> decide
  have hcomment : Yields d.nameQuote c.commentSuffix (c.commentText.toList.map .text) :=
    yields_optional_text (by cases d <;> decide) (by decide) c.commentText
  have hline := (hname.append_plain (hspace.append h)).append hcomment
  simpa [indented, parts, hd, String.append_assoc] using hline

theorem yields_dorisLine (h : Unquoted '\x60' c.typeName) :
    Yields '\x60' (indented c.dorisLine) (c.parts .doris) :=
  yields_line (d := .doris) rfl c (unquoted_dorisType h)

theorem yields_mysqlLine (h : Unquoted '\x60' c.typeName) :
    Yields '\x60' (indented c.mysqlLine) (c.parts .mysql) := by
  have hnull : Unquoted '\x60' (if c.nullable then " NULL" else " NOT NULL") := by
    split <;> decide
  have := yields_line (d := .mysql) rfl c ((unquoted_mysqlType h).append hnull)
  unfold mysqlLine
  simp only [String.append_assoc] at this ⊢
  exact this

end Column

/-! ## Statements -/

namespace Table

variable {t : Table}

theorem yields_mysqlWith (h : ∀ c ∈ t.columns, Unquoted '\x60' c.typeName)
    (comment : Option String) :
    Yields '\x60' (t.mysqlWith comment)
      (.name t.name :: ((t.columns.map (·.parts .mysql)).flatten ++ t.keyNames.map .name) ++
        comment.toList.map .text) := by
  have hwords : t.keyColumns ≠ [] → Unquoted '\x60' "" := fun _ => by decide
  obtain ⟨pss, hkey, hflat⟩ := yields_keyLine (d := .mysql) hwords
  have hcolumns : List.Forall₂ (Yields '\x60') ((t.columns.map (·.mysqlLine)).map indented)
      (t.columns.map (·.parts .mysql)) := by
    rw [List.map_map, Text.forall₂_map_map]
    exact fun c hc => Column.yields_mysqlLine (h c hc)
  have hbody := yields_createBody (d := .mysql) t.name
    (by rw [List.map_append]; exact List.rel_append hcolumns hkey)
  have hoptions : Unquoted '\x60' " ENGINE=InnoDB DEFAULT CHARSET=utf8mb4" := by decide
  have hcomment : Yields '\x60' ((comment.map fun text => " COMMENT=" ++ quoteText text).getD "")
      (comment.toList.map .text) :=
    yields_optional_text (d := .mysql) (by decide) (by decide) comment
  have hend : Unquoted '\x60' ";" := by decide
  have hall := ((hbody.append_plain hoptions).append hcomment).append_plain hend
  rw [List.flatten_append, hflat] at hall
  unfold mysqlWith mysqlHead
  rw [createBody_eq] at hall
  simp only [String.append_assoc] at hall ⊢
  exact hall

theorem yields_dorisHead (h : ∀ c ∈ t.columns, Unquoted '\x60' c.typeName) :
    Yields '\x60' ("CREATE TABLE" ++ t.dorisHead)
      (.name t.name :: (t.keysFirst.map (·.parts .doris)).flatten) := by
  have hcolumns : List.Forall₂ (Yields '\x60') ((t.keysFirst.map (·.dorisLine)).map indented)
      (t.keysFirst.map (·.parts .doris)) := by
    rw [List.map_map, Text.forall₂_map_map]
    exact fun c hc => Column.yields_dorisLine (h c (mem_keysFirst.1 hc))
  have hengine : Unquoted '\x60' " ENGINE = OLAP" := by decide
  have hbody := (yields_createBody (d := .doris) t.name hcolumns).append_plain hengine
  rwa [createBody_eq, String.append_assoc] at hbody

/-- A Doris statement has its key in two places behind the declarations. -/
theorem exists_dorisWith_eq (t : Table) : ∃ rest, Unquoted '\x60' rest ∧ ∀ comment,
    t.dorisWith comment = "CREATE TABLE" ++ t.dorisHead ++
      ("\nUNIQUE KEY(" ++ quoteNames .doris t.dorisKeys) ++ (") COMMENT " ++ quoteText comment) ++
      ("\nDISTRIBUTED BY HASH(" ++ quoteNames .doris t.dorisKeys) ++ (")" ++ rest) := by
  have hrest : Unquoted '\x60' (" BUCKETS " ++ (dorisBuckets ++
      ("\nPROPERTIES (\n  \"replication_num\" = \"1\",\n" ++
        "  \"enable_unique_key_merge_on_write\" = \"true\"\n);"))) := by decide
  refine ⟨_, hrest, fun comment => ?_⟩
  have hwords (rest : String) : ")" ++ (" BUCKETS " ++ rest) = ") BUCKETS " ++ rest := by
    rw [← String.append_assoc]
    rfl
  unfold dorisWith
  simp only [String.append_assoc, hwords]

theorem yields_dorisWith (h : ∀ c ∈ t.columns, Unquoted '\x60' c.typeName) (comment : String) :
    Yields '\x60' (t.dorisWith comment)
      (.name t.name :: (t.keysFirst.map (·.parts .doris)).flatten ++ t.dorisKeys.map .name ++
        [.text comment] ++ t.dorisKeys.map .name) := by
  obtain ⟨rest, hrest, hstatement⟩ := t.exists_dorisWith_eq
  have hkey := yields_names (d := .doris) (show Unquoted '\x60' "\nUNIQUE KEY(" by decide)
    (by decide) t.dorisKeys
  have hcomment := yields_text (d := .doris) (show Unquoted '\x60' ") COMMENT " by decide)
    (by decide) comment
  have hhash := yields_names (d := .doris) (show Unquoted '\x60' "\nDISTRIBUTED BY HASH(" by decide)
    (by decide) t.dorisKeys
  have hclose : Unquoted '\x60' ")" := by decide
  rw [hstatement]
  exact ((((yields_dorisHead h).append hkey).append hcomment).append hhash).append_plain
    (hclose.append hrest)

end Table

end TableSql
