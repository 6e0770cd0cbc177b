import TableSql.Proofs.Convert.QuotedComment
import TableSql.Proofs.Convert.Statement

/-!
# The comment of a table, written and read back

* `readableComment` — what can be read back of a comment: the text before its first quote.

Principal results: `findTableComment_mysqlWith`, `findTableComment_dorisWith` (what is found in the
statements of a conversion), `comment_found_in_conversions` (a comment without quotes is read back,
also from a statement that was converted forth and back) and `comment_found_iff_quoteless` (no other
comment is).
-/

set_option autoImplicit false

namespace TableSql

/-- The text of a comment before its first quote, if there is something. -/
def readableComment (text : String) : Option String :=
  nonEmpty? (some (String.ofList (beforeQuote text.toList)))

theorem readableComment_of_quoteless {text : String} (h : Quoteless text) (hne : text ≠ "") :
    readableComment text = some text := by
  have hall : beforeQuote text.toList = text.toList := by
    rw [beforeQuote, List.takeWhile_eq_self_iff]
    intro c hc
    rw [h c hc]
    rfl
  rw [readableComment, hall, String.ofList_toList]
  exact nonEmpty?_eq_some_iff.2 ⟨rfl, hne⟩

theorem quoteless_of_standsQuoted {text : String} {cs : List Char}
    (h : StandsQuoted text.toList cs) : Quoteless text := by
  obtain ⟨-, -, -, -, -, -, -, hinside⟩ := h
  exact hinside

/-- What is found, once it is known which characters are found first. -/
theorem findTableComment_eq {statement : String} {inside : List Char}
    (h : ((keyComment? statement.toList).or (optionComment? false statement.toList)).or
      (lastComment? 0 statement.toList) = some inside) :
    findTableComment statement = nonEmpty? (some (String.ofList inside)) := by
  unfold findTableComment
  simp only [h, Option.bind_some, nonEmpty?, Option.filter_some]
  cases inside <;> simp

/-! ## MySQL -/

section Mysql

variable {t : Table} {text : String}

theorem toList_mysqlWith (t : Table) (text : String) :
    (t.mysqlWith (some text)).toList = "CREATE TABLE".toList ++ (t.mysqlHead.toList ++
      (" COMMENT=".toList ++ (Text.enclosedChars '\'' text.toList ++ [';']))) := by
  unfold Table.mysqlWith
  simp only [Option.map_some, Option.getD_some, quoteText, Text.enclosed, String.toList_append,
    String.toList_ofList, List.append_assoc]
  rfl

/-- Behind the parentheses of a statement one has been closed. -/
theorem closedBehind_mysqlHead (t : Table) (closed : Bool) :
    closedBehind closed t.mysqlHead.toList = true := by
  have hclose (closed : Bool) : closedBehind closed "\n)".toList = true := by
    cases closed <;> rfl
  have hoptions : closedBehind true " ENGINE=InnoDB DEFAULT CHARSET=utf8mb4".toList = true := rfl
  rw [Table.mysqlHead, createBehind, String.toList_append, String.toList_append,
    closedBehind_append, closedBehind_append, hclose, hoptions]

theorem optionComment?_of_here {c : Char} {cs inside : List Char}
    (h : optionCommentHere? (c :: cs) = some inside) :
    optionComment? true (c :: cs) = some inside := by
  rw [optionComment?, if_pos rfl, h, Option.some_or]

theorem optionComment?_written (text rest : List Char) :
    optionComment? true (" COMMENT=".toList ++ (Text.enclosedChars '\'' text ++ rest)) =
      some (beforeQuote text) := by
  have hread := fst_commentQuoted?_enclosed text rest
  have hhere : optionCommentHere? ("COMMENT=".toList ++ (Text.enclosedChars '\'' text ++ rest)) =
      some (beforeQuote text) := by
    change (commentQuoted? (Text.enclosedChars '\'' text ++ rest) >>= _) = _
    cases hquoted : commentQuoted? (Text.enclosedChars '\'' text ++ rest) with
    | none => rw [hquoted] at hread; cases hread
    | some found => rw [hquoted] at hread; exact hread
  have hspace : optionComment? true
      (" COMMENT=".toList ++ (Text.enclosedChars '\'' text ++ rest)) =
      optionComment? true ("COMMENT=".toList ++ (Text.enclosedChars '\'' text ++ rest)) := rfl
  exact hspace.trans (optionComment?_of_here hhere)

/-- **In a MySQL statement the comment is found up to its first quote,** unless the comment itself
holds a comment after a key of Doris. -/
theorem findTableComment_mysqlWith (h : t.Quiet)
    (hkey : keyComment? (Text.enclosedChars '\'' text.toList ++ [';']) = none) :
    findTableComment (t.mysqlWith (some text)) = readableComment text := by
  have hquoted : Apart (Text.enclosedChars '\'' text.toList ++ [';']) := ⟨rfl, rfl⟩
  have hapart : Apart (" COMMENT=".toList ++ (Text.enclosedChars '\'' text.toList ++ [';'])) :=
    ⟨rfl, rfl⟩
  refine findTableComment_eq ?_
  rw [toList_mysqlWith, keyComment?_statement (columnComments_mysqlHead h) hapart,
    keyComment?_skip (by decide) hquoted, hkey,
    optionComment?_statement (columnComments_mysqlHead h) hapart, closedBehind_mysqlHead,
    optionComment?_written, Option.none_or, Option.some_or]

theorem keyComment?_of_quoteless (h : Quoteless text) :
    keyComment? (Text.enclosedChars '\'' text.toList ++ [';']) = none := by
  have hopen : isCommentQuote '\'' = true := by decide
  have hopening : keyComment? (Text.enclosedChars '\'' text.toList ++ [';']) =
      keyComment? (text.toList ++ ['\'', ';']) := by
    rw [Text.enclosedChars, doubled_of_quoteless h, List.cons_append, List.append_assoc]
    rfl
  have hcount : (text.toList ++ ['\'', ';']).countP isCommentQuote = 1 := by
    rw [List.countP_append, List.countP_eq_zero.2 fun c hc => by rw [h c hc]; decide]
    decide
  cases hfound : keyComment? (text.toList ++ ['\'', ';']) with
  | none => rw [hopening, hfound]
  | some inside =>
    have := (commented_of_keyComment? hfound).standsQuoted.two_le_countP
    omega

theorem keyComment?_of_not_mentions (h : mentions keyWord text.toList = false) :
    keyComment? (Text.enclosedChars '\'' text.toList ++ [';']) = none := by
  have hquote : isWordLetter '\'' = false := by decide
  rw [keyComment?_skip (by rw [mentions_enclosed isWord_key hquote, h]) ⟨rfl, rfl⟩]
  rfl

end Mysql

/-! ## Doris -/

section Doris

variable {t : Table} {text : String}

theorem Table.Quiet.open_dorisKeys (h : t.Quiet) :
    ')' ∉ (quoteNames .doris t.dorisKeys).toList := by
  refine not_mem_quoteNames (by decide) (by decide) fun name hname => ?_
  rw [Table.dorisKeys] at hname
  split at hname
  · obtain rfl : name = dorisKeyColumn := List.mem_singleton.1 hname
    decide
  · obtain ⟨c, hc, rfl⟩ := Table.exists_column_of_mem_keyNames hname
    exact (h.columns c hc).noClosing

theorem toList_dorisWith (t : Table) (text : String) :
    ∃ behind, (t.dorisWith text).toList = "CREATE TABLE".toList ++ (t.dorisHead.toList ++
      ("\nUNIQUE KEY(".toList ++ ((quoteNames .doris t.dorisKeys).toList ++
        (") COMMENT ".toList ++ (Text.enclosedChars '\'' text.toList ++ behind))))) := by
  unfold Table.dorisWith
  simp only [quoteText, Text.enclosed, String.toList_append, String.toList_ofList,
    List.append_assoc]
  exact ⟨_, rfl⟩

theorem keyComment?_of_here {c : Char} {cs inside : List Char}
    (h : keyCommentHere? (c :: cs) = some inside) : keyComment? (c :: cs) = some inside := by
  rw [keyComment?, h, Option.some_or]

theorem keyComment?_written {names : List Char} (hnames : ')' ∉ names) (text rest : List Char) :
    keyComment? ("\nUNIQUE KEY(".toList ++ (names ++
      (") COMMENT ".toList ++ (Text.enclosedChars '\'' text ++ rest)))) =
      some (beforeQuote text) := by
  have hread := fst_commentQuoted?_enclosed text rest
  generalize hquoted : Text.enclosedChars '\'' text ++ rest = quoted at hread
  have hopen : ∀ c ∈ names, decide (c ≠ ')') = true := by
    intro c hc
    rw [decide_eq_true_eq]
    rintro rfl
    exact hnames hc
  have hclose : (names ++ (") COMMENT ".toList ++ quoted)).dropWhile (· ≠ ')') =
      ") COMMENT ".toList ++ quoted := by
    rw [List.dropWhile_append_of_pos hopen]
    rfl
  have hstrip : Text.stripFront quoted = quoted := by rw [← hquoted]; rfl
  have hhere : keyCommentHere?
      ("UNIQUE KEY(".toList ++ (names ++ (") COMMENT ".toList ++ quoted))) =
      some (beforeQuote text) := by
    change (afterChar? ')'
      ((names ++ (") COMMENT ".toList ++ quoted)).dropWhile (· ≠ ')')) >>= _) = _
    rw [hclose]
    change (commentQuoted? (Text.stripFront quoted) >>= _) = _
    rw [hstrip]
    cases hfound : commentQuoted? quoted with
    | none => rw [hfound] at hread; cases hread
    | some found => rw [hfound] at hread; exact hread
  have hbreak : keyComment? ("\nUNIQUE KEY(".toList ++ (names ++ (") COMMENT ".toList ++ quoted))) =
      keyComment? ("UNIQUE KEY(".toList ++ (names ++ (") COMMENT ".toList ++ quoted))) := rfl
  exact hbreak.trans (keyComment?_of_here hhere)

/-- **In a Doris statement the comment is found up to its first quote.** -/
theorem findTableComment_dorisWith (h : t.Quiet) :
    findTableComment (t.dorisWith text) = readableComment text := by
  obtain ⟨texts, hhead⟩ := columnComments_dorisHead h
  obtain ⟨behind, hstatement⟩ := toList_dorisWith t text
  refine findTableComment_eq ?_
  rw [hstatement, keyComment?_statement hhead ⟨rfl, rfl⟩, keyComment?_written h.open_dorisKeys,
    Option.some_or, Option.some_or]

end Doris

/-! ## Written and read back -/

section ReadBack

variable {t : Table} {text : String}

theorem commentText_eq (ht : t.comment = some text) (hne : text ≠ "") :
    t.commentText = some text :=
  nonEmpty?_eq_some_iff.2 ⟨ht, hne⟩

theorem resolvedComment_nil (t : Table) : t.resolvedComment "" = t.commentText := rfl

theorem resolvedComment_of_found {source : String} (h : findTableComment source = some text)
    (t : Table) : t.resolvedComment source = some text := by
  rw [Table.resolvedComment, h, Option.some_or]

theorem findTableComment_toMysql {source : String} (h : t.Quiet)
    (hresolved : t.resolvedComment source = some text)
    (hkey : keyComment? (Text.enclosedChars '\'' text.toList ++ [';']) = none) :
    findTableComment (t.toMysql source) = readableComment text := by
  rw [Table.toMysql_eq, hresolved, findTableComment_mysqlWith h hkey]

theorem findTableComment_toDoris {source : String} (h : t.Quiet)
    (hresolved : t.resolvedComment source = some text) :
    findTableComment (t.toDoris source) = readableComment text := by
  rw [Table.toDoris_eq, hresolved, Option.getD_some, findTableComment_dorisWith h]

/-- A comment without quotes that goes into a statement is found there. -/
theorem findTableComment_of_resolved {source : String} (h : t.Quiet)
    (hresolved : t.resolvedComment source = some text) (hne : text ≠ "")
    (hquoteless : Quoteless text) :
    findTableComment (t.toMysql source) = some text ∧
      findTableComment (t.toDoris source) = some text := by
  rw [findTableComment_toMysql h hresolved (keyComment?_of_quoteless hquoteless),
    findTableComment_toDoris h hresolved, readableComment_of_quoteless hquoteless hne]
  exact ⟨rfl, rfl⟩

/-- **A comment without quotes is found in both statements of a conversion, and again after a
conversion back that has only the statement to take it from.** -/
theorem comment_found_in_conversions (h : t.Quiet) (ht : t.comment = some text) (hne : text ≠ "")
    (hquoteless : Quoteless text) :
    findTableComment (t.toMysql "") = some text ∧ findTableComment (t.toDoris "") = some text ∧
      ∀ u : Table, u.Quiet →
        findTableComment (u.toMysql (t.toDoris "")) = some text ∧
        findTableComment (u.toDoris (t.toMysql "")) = some text := by
  have hresolved : t.resolvedComment "" = some text := commentText_eq ht hne
  obtain ⟨hmysql, hdoris⟩ := findTableComment_of_resolved h hresolved hne hquoteless
  refine ⟨hmysql, hdoris, fun u hu => ?_⟩
  have hback := findTableComment_of_resolved hu (resolvedComment_of_found hdoris u) hne hquoteless
  have hforth := findTableComment_of_resolved hu (resolvedComment_of_found hmysql u) hne hquoteless
  exact ⟨hback.1, hforth.2⟩

/-- A comment that talks about comments, and columns that close parentheses and statements. -/
theorem comment_found_in_conversions_hostile :
    let text := "All orders; UNIQUE KEY (id) COMMENT="
    let t : Table :=
      { name := "orders); \x60x"
        columns := [
          { name := "id", typeName := "bigint", isKey := true, comment := some "it's (one" },
          { name := "stat;us", typeName := "enum('a)','b;')", comment := some "); UNIQUE='x'" }]
        comment := some text }
    (t.Quiet ∧ t.comment = some text ∧ text ≠ "" ∧ Quoteless text) ∧
      findTableComment (t.toMysql "") = some text ∧ findTableComment (t.toDoris "") = some text ∧
      ∀ u : Table, u.Quiet →
        findTableComment (u.toMysql (t.toDoris "")) = some text ∧
        findTableComment (u.toDoris (t.toMysql "")) = some text := by
  intro text t
  have hquiet : t.Quiet := by decide +kernel
  have hquoteless : Quoteless text := by decide
  exact ⟨⟨hquiet, rfl, by decide, hquoteless⟩,
    comment_found_in_conversions hquiet rfl (by decide) hquoteless⟩

/-- **Exactly the comments without quotes are read back.** Of the others the search reads the text
before the first quote; in a MySQL statement a comment that mentions KEY may hold something that is
found before. -/
theorem comment_found_iff_quoteless (h : t.Quiet) (ht : t.comment = some text) (hne : text ≠ "") :
    (findTableComment (t.toMysql "") = some text ↔ Quoteless text) ∧
    (findTableComment (t.toDoris "") = some text ↔ Quoteless text) ∧
    findTableComment (t.toDoris "") = readableComment text ∧
    (mentions keyWord text.toList = false →
      findTableComment (t.toMysql "") = readableComment text) := by
  have hresolved : t.resolvedComment "" = some text := commentText_eq ht hne
  refine ⟨⟨fun hfound => ?_, fun hquoteless => ?_⟩, ⟨fun hfound => ?_, fun hquoteless => ?_⟩,
    findTableComment_toDoris h hresolved,
    fun hkey => findTableComment_toMysql h hresolved (keyComment?_of_not_mentions hkey)⟩
  · exact quoteless_of_standsQuoted (commented_of_findTableComment hfound).2.standsQuoted
  · exact (findTableComment_of_resolved h hresolved hne hquoteless).1
  · exact quoteless_of_standsQuoted (commented_of_findTableComment hfound).2.standsQuoted
  · exact (findTableComment_of_resolved h hresolved hne hquoteless).2

/-- A comment with a quote of each kind. -/
theorem comment_found_iff_quoteless_inches :
    let text := "5\" or 5'"
    let t : Table :=
      { name := "sizes", columns := [{ name := "id", typeName := "int" }], comment := some text }
    (t.Quiet ∧ t.comment = some text ∧ text ≠ "") ∧
      findTableComment (t.toMysql "") ≠ some text ∧ findTableComment (t.toDoris "") ≠ some text ∧
      findTableComment (t.toMysql "") = some "5" ∧ findTableComment (t.toDoris "") = some "5" := by
  intro text t
  have hquiet : t.Quiet := by decide +kernel
  have hquote : ¬Quoteless text := by decide
  have hreadable : readableComment text = some "5" := by decide
  obtain ⟨hmysql, hdoris, hcutDoris, hcutMysql⟩ :=
    comment_found_iff_quoteless hquiet (show t.comment = some text from rfl) (by decide)
  exact ⟨⟨hquiet, rfl, by decide⟩, hquote ∘ hmysql.1, hquote ∘ hdoris.1,
    (hcutMysql (by decide)).trans hreadable, hcutDoris.trans hreadable⟩

/-- A quote that is doubled in the statement, and ends the comment for the search. -/
theorem quote_cuts_comment :
    let t : Table :=
      { name := "users", columns := [{ name := "id", typeName := "int" }], comment := some "it's" }
    t.Quiet ∧ t.columns.filterMap (·.commentText) = [] ∧
      findTableComment (t.toMysql "") ≠ some "it's" ∧
      findTableComment (t.toDoris "") ≠ some "it's" := by
  intro t
  have hquiet : t.Quiet := by decide
  have hresolved : t.resolvedComment "" = some "it's" :=
    (resolvedComment_nil t).trans (commentText_eq rfl (by decide))
  rw [findTableComment_toDoris hquiet hresolved,
    findTableComment_toMysql hquiet hresolved (keyComment?_of_not_mentions (by decide))]
  exact ⟨hquiet, by decide, by decide, by decide⟩

end ReadBack

end TableSql
