import TableSql.Proofs.Ddl.KeyConstraint
import TableSql.Proofs.Text.Reader

/-!
# Comments in statements of their own

PostgreSQL, Oracle and SQL Server take no comments inside CREATE TABLE.

* `CommentOn`, `CommentOn.read?` — a comment on a column or on a table, and a reader of the
  statement that makes it.
* `Table.comments` — the comments of a table in the order in which they are made.
* `Table.withoutComments` — the same table with every comment taken away.

Principal results: `many_read?_join` (comments are read back from their statements),
`createStatement_eq_append` (they only add to the end of a statement), `comments_determined` (what
they add tells them apart) and `deferred_comments_are_suffix`.
-/

set_option autoImplicit false

namespace TableSql

/-! ## One comment -/

/-- A comment on a column or on a table. -/
inductive CommentOn where
  | ofColumn (table column text : String)
  | ofTable (table text : String)
  deriving DecidableEq, Repr

namespace CommentOn

/-- The statement that makes a comment. -/
def text (d : Dialect) : CommentOn → String
  | ofColumn table column text =>
    "COMMENT ON COLUMN " ++ quoteName d table ++ "." ++ quoteName d column ++ " IS " ++
      quoteText text ++ ";\n"
  | ofTable table text =>
    "COMMENT ON TABLE " ++ quoteName d table ++ " IS " ++ quoteText text ++ ";\n"

/-- A statement that makes a comment on a column. -/
def readColumn? (nameQuote : Char) : Reader CommentOn := fun cs => do
  let cs ← cs.dropPrefix? "COMMENT ON COLUMN ".toList
  let (table, cs) ← Reader.quoted nameQuote cs
  let cs ← cs.dropPrefix? ".".toList
  let (column, cs) ← Reader.quoted nameQuote cs
  let cs ← cs.dropPrefix? " IS ".toList
  let (text, cs) ← Reader.quoted '\'' cs
  let cs ← cs.dropPrefix? ";\n".toList
  return (.ofColumn table column text, cs)

/-- A statement that makes a comment on a table. -/
def readTable? (nameQuote : Char) : Reader CommentOn := fun cs => do
  let cs ← cs.dropPrefix? "COMMENT ON TABLE ".toList
  let (table, cs) ← Reader.quoted nameQuote cs
  let cs ← cs.dropPrefix? " IS ".toList
  let (text, cs) ← Reader.quoted '\'' cs
  let cs ← cs.dropPrefix? ";\n".toList
  return (.ofTable table text, cs)

def read? (nameQuote : Char) : Reader CommentOn := fun cs =>
  (readColumn? nameQuote cs).or (readTable? nameQuote cs)

theorem text_ne_empty (d : Dialect) (comment : CommentOn) : comment.text d ≠ "" := by
  cases comment with
  | ofColumn table column text =>
    unfold CommentOn.text
    simp
  | ofTable table text =>
    unfold CommentOn.text
    simp

variable (d : Dialect)

theorem readColumn?_text (table column text : String) (rest : List Char) :
    readColumn? d.nameQuote (((ofColumn table column text).text d).toList ++ rest) =
      some (ofColumn table column text, rest) := by
  have hpieces : ((ofColumn table column text).text d).toList ++ rest =
      "COMMENT ON COLUMN ".toList ++ ((quoteName d table).toList ++ (".".toList ++
        ((quoteName d column).toList ++ (" IS ".toList ++ ((quoteText text).toList ++
          (";\n".toList ++ rest)))))) := by
    unfold CommentOn.text
    simp only [String.toList_append, List.append_assoc]
  simp (disch := cases d <;> simp [Dialect.nameQuote]) only [hpieces, readColumn?,
    dropPrefix?_append, quoted_quoteName, quoted_quoteText, Option.bind_eq_bind, Option.bind_some,
    Option.pure_def]

theorem readTable?_text (table text : String) (rest : List Char) :
    readTable? d.nameQuote (((ofTable table text).text d).toList ++ rest) =
      some (ofTable table text, rest) := by
  have hpieces : ((ofTable table text).text d).toList ++ rest =
      "COMMENT ON TABLE ".toList ++ ((quoteName d table).toList ++ (" IS ".toList ++
        ((quoteText text).toList ++ (";\n".toList ++ rest)))) := by
    unfold CommentOn.text
    simp only [String.toList_append, List.append_assoc]
  simp (disch := cases d <;> simp [Dialect.nameQuote]) only [hpieces, readTable?,
    dropPrefix?_append, quoted_quoteName, quoted_quoteText, Option.bind_eq_bind, Option.bind_some,
    Option.pure_def]

theorem readColumn?_ofTable (table text : String) (rest : List Char) :
    readColumn? d.nameQuote (((ofTable table text).text d).toList ++ rest) = none := by
  have hword (more : List Char) :
      ("COMMENT ON TABLE ".toList ++ more).dropPrefix? "COMMENT ON COLUMN ".toList = none := by
    simp [List.dropPrefix?]
  unfold CommentOn.text
  simp only [String.toList_append, List.append_assoc, readColumn?, hword]
  rfl

/-- **The statement that makes a comment is read back, whatever follows it.** -/
theorem readsBack_text : ReadsBack (read? d.nameQuote) (text d) fun _ => True := by
  intro comment rest _
  cases comment with
  | ofColumn table column text => rw [read?, readColumn?_text, Option.some_or]
  | ofTable table text => rw [read?, readColumn?_ofTable, Option.none_or, readTable?_text]

end CommentOn

theorem many_read?_join (d : Dialect) (comments : List CommentOn) :
    Reader.many (CommentOn.read? d.nameQuote)
      (String.join (comments.map (CommentOn.text d))).toList = some (comments, []) := by
  have hnone : CommentOn.read? d.nameQuote [] = none := rfl
  have := many_join (CommentOn.readsBack_text d) (CommentOn.text_ne_empty d) hnone comments
  rwa [List.append_nil] at this

/-! ## The comments of a table -/

namespace Table

variable (d : Dialect) (t : Table)

/-- The comments of a table: those on its columns, in their order, then the one on the table. -/
def comments : List CommentOn :=
  t.columns.filterMap (fun c => c.commentText.map (.ofColumn t.name c.name)) ++
    (t.commentText.map (.ofTable t.name)).toList

/-- A column or the table has a comment that is not empty. -/
def HasComments : Prop :=
  (∃ c ∈ t.columns, ∃ text, c.comment = some text ∧ text ≠ "") ∨
    ∃ text, t.comment = some text ∧ text ≠ ""

theorem commentStatements_eq : t.commentStatements d = t.comments.map (CommentOn.text d) := by
  have hcolumns (columns : List Column) :
      columns.filterMap (fun c => c.commentText.map fun text =>
        (CommentOn.ofColumn t.name c.name text).text d) =
      (columns.filterMap fun c => c.commentText.map (CommentOn.ofColumn t.name c.name)).map
        (CommentOn.text d) := by
    simp only [List.map_filterMap, Option.map_map, Function.comp_def]
  have htable : (t.commentText.map fun text => (CommentOn.ofTable t.name text).text d).toList =
      (t.commentText.map (CommentOn.ofTable t.name)).toList.map (CommentOn.text d) := by
    cases t.commentText <;> rfl
  rw [comments, List.map_append, ← hcolumns, ← htable]
  rfl

theorem comments_eq_nil_iff : t.comments = [] ↔ ¬ t.HasComments := by
  have hnone (text : Option String) :
      nonEmpty? text = none ↔ ¬ ∃ s, text = some s ∧ s ≠ "" := by
    simp [Option.eq_none_iff_forall_ne_some, nonEmpty?_eq_some_iff]
  simp only [comments, HasComments, Column.commentText, commentText, List.append_eq_nil_iff,
    List.filterMap_eq_nil_iff, Option.map_eq_none_iff, Option.toList_eq_nil_iff, hnone, not_or,
    not_exists, not_and]

end Table

/-! ## Tables without comments -/

/-- The same column without its comment. -/
def Column.withoutComment (c : Column) : Column := { c with comment := none }

/-- The same table with every comment taken away. -/
def Table.withoutComments (t : Table) : Table :=
  { t with columns := t.columns.map Column.withoutComment, comment := none }

variable {d : Dialect}

theorem Column.typeToken_withoutComment (c : Column) :
    c.withoutComment.typeToken d = c.typeToken d := rfl

theorem Column.lengthClause_withoutComment (c : Column) :
    c.withoutComment.lengthClause d = c.lengthClause d := by
  rw [lengthClause, lengthClause, typeToken_withoutComment]
  rfl

/-- Where comments have statements of their own, a column is defined without its comment. -/
theorem Column.definition_withoutComment (hd : d.hasInlineComments = false) (c : Column) :
    c.withoutComment.definition d = c.definition d := by
  -- the comment goes into one clause only, which these dialects leave out
  have hclauses : c.withoutComment.clauses d = c.clauses d := by
    unfold clauses
    simp only [typeToken_withoutComment, lengthClause_withoutComment, hd, Bool.false_eq_true,
      if_false]
    simp only [withoutComment]
    -- the sides still differ in the instances that decide the conditions
    rfl
  rw [definition, definition, hclauses]
  rfl

namespace Table

variable (t : Table)

theorem keyColumns_withoutComments :
    t.withoutComments.keyColumns = t.keyColumns.map Column.withoutComment :=
  List.filter_map

theorem keyLine_withoutComments (words : String) :
    t.withoutComments.keyLine words d = t.keyLine words d := by
  have hnames : t.withoutComments.keyNames = t.keyNames := by
    rw [keyNames, keyColumns_withoutComments, List.map_map]
    rfl
  simp only [keyLine, hnames, keyColumns_withoutComments, List.isEmpty_map]

theorem comments_withoutComments : t.withoutComments.comments = [] := by
  simp [comments, withoutComments, Column.withoutComment, Column.commentText, commentText,
    nonEmpty?]

end Table

/-! ## The end of a statement -/

/-- What some comments add to the end of a statement. -/
def commentSuffix (d : Dialect) (comments : List CommentOn) : String :=
  if comments.isEmpty then "" else "\n\n" ++ String.join (comments.map (CommentOn.text d))

theorem commentSuffix_injective {these those : List CommentOn}
    (h : commentSuffix d these = commentSuffix d those) : these = those := by
  unfold commentSuffix at h
  split at h <;> split at h
  case isTrue.isTrue hthese hthose => rw [List.isEmpty_iff.1 hthese, List.isEmpty_iff.1 hthose]
  case isTrue.isFalse => simp at h
  case isFalse.isTrue => simp at h
  case isFalse.isFalse =>
    have hread := many_read?_join d these
    rw [(String.append_right_inj _).1 h, many_read?_join d those] at hread
    cases hread
    rfl

/-- **Where comments have statements of their own, they only add to the end.** -/
theorem createStatement_eq_append (hd : d.hasInlineComments = false) (t : Table) :
    t.createStatement d = t.withoutComments.createStatement d ++ commentSuffix d t.comments := by
  have hbehind (t : Table) : t.behindBody d = ";" ++ commentSuffix d t.comments := by
    rw [Table.behindBody, t.commentStatements_eq d, commentSuffix, List.isEmpty_map]
  have hcolumns : t.withoutComments.columns.map (·.definition d) =
      t.columns.map (·.definition d) := by
    rw [Table.withoutComments, List.map_map]
    exact List.map_congr_left fun c _ => c.definition_withoutComment hd
  have hempty : commentSuffix d [] = "" := rfl
  rw [createStatement_of_deferred hd, createStatement_of_deferred hd, hbehind, hbehind, hcolumns,
    Table.keyLine_withoutComments, Table.comments_withoutComments, hempty, String.append_empty,
    String.append_assoc, String.append_assoc]
  rfl

/-- Statements for the same columns tell the comments of their tables apart. -/
theorem comments_determined (hd : d.hasInlineComments = false) {t u : Table}
    (hsame : t.withoutComments = u.withoutComments)
    (h : t.createStatement d = u.createStatement d) : t.comments = u.comments := by
  rw [createStatement_eq_append hd t, createStatement_eq_append hd u, hsame] at h
  exact commentSuffix_injective ((String.append_right_inj _).1 h)

/-- **Comments in statements of their own are an exact suffix that can be read back.** Without a
comment that is not empty the statement is that of the table without comments; otherwise an empty
line and a statement for each comment follow it, and from these the comments are read. -/
theorem deferred_comments_are_suffix (hd : d.hasInlineComments = false) (t : Table) :
    (¬ t.HasComments → t.createStatement d = t.withoutComments.createStatement d) ∧
    (t.HasComments → ∃ suffix,
      t.createStatement d = t.withoutComments.createStatement d ++ "\n\n" ++ suffix ∧
      suffix = String.join (t.comments.map (CommentOn.text d)) ∧
      Reader.many (CommentOn.read? d.nameQuote) suffix.toList = some (t.comments, [])) := by
  rw [createStatement_eq_append hd t]
  constructor
  · intro hnone
    rw [t.comments_eq_nil_iff.2 hnone]
    exact String.append_empty
  · intro hcomments
    have hne : ¬ t.comments.isEmpty = true := by
      rw [List.isEmpty_iff, t.comments_eq_nil_iff, not_not]
      exact hcomments
    refine ⟨_, ?_, rfl, many_read?_join d t.comments⟩
    rw [commentSuffix, if_neg hne, String.append_assoc]

/-- Names and comments that try to get out of their quotes, a comment that looks like the statements
behind it, and an empty comment. -/
theorem deferred_comments_are_suffix_hostile :
    let t : Table :=
      { name := "a\".\"b"
        columns := [
          { name := "x' IS 'y", typeName := "int", isKey := true,
            comment := some "it's;\nCOMMENT ON TABLE \"a\" IS 'b';\n" },
          { name := "\"", typeName := "text", comment := some "" },
          { name := "x' IS 'y", typeName := "text", comment := some "''" }]
        comment := some "';" }
    (Dialect.oracle.hasInlineComments = false ∧ t.HasComments) ∧
      ∃ suffix,
        t.createStatement .oracle =
          t.withoutComments.createStatement .oracle ++ "\n\n" ++ suffix ∧
        suffix = String.join (t.comments.map (CommentOn.text .oracle)) ∧
        Reader.many (CommentOn.read? '"') suffix.toList =
          some ([.ofColumn "a\".\"b" "x' IS 'y" "it's;\nCOMMENT ON TABLE \"a\" IS 'b';\n",
            .ofColumn "a\".\"b" "x' IS 'y" "''", .ofTable "a\".\"b" "';"], []) := by
  intro t
  have hcomments : t.HasComments := .inr ⟨"';", rfl, by decide⟩
  exact ⟨⟨rfl, hcomments⟩, (deferred_comments_are_suffix rfl t).2 hcomments⟩

end TableSql
