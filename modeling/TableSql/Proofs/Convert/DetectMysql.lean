import TableSql.CommandLine.Run
import TableSql.Proofs.Convert.Detect
import TableSql.Proofs.Ddl.Quotes
import TableSql.Proofs.Text.Ascii
import TableSql.Proofs.Text.Gaps

/-!
# Telling statements of MySQL

A statement of MySQL has no clause that only Doris has, but the names, types, default values and
comments in it can spell one.

* `ShowsDoris` — such a clause stands in a text, in any letter case.
* `FixedPart` — a part of a statement that cannot take part in such a clause.
* `Fills` — a piece of a statement in which such a clause can only stand in one of some texts.

Principal results: `detectDialect_eq_mysql_iff`, `Fills.append`, `Fills.intercalate` (pieces add up)
and from them when the statements that are written for MySQL are told for such.
-/

set_option autoImplicit false

namespace TableSql

/-- The characters of the clauses that only Doris has, spelled out: to take them from the texts each
time would make checking a fixed part slow. -/
def dorisWords : List (List Char) :=
  [['E', 'N', 'G', 'I', 'N', 'E', '=', 'O', 'L', 'A', 'P'],
    ['E', 'N', 'G', 'I', 'N', 'E', ' ', '=', ' ', 'O', 'L', 'A', 'P'],
    ['D', 'I', 'S', 'T', 'R', 'I', 'B', 'U', 'T', 'E', 'D', ' ', 'B', 'Y', ' ', 'H', 'A', 'S',
      'H'],
    ['D', 'U', 'P', 'L', 'I', 'C', 'A', 'T', 'E', ' ', 'K', 'E', 'Y'],
    ['A', 'G', 'G', 'R', 'E', 'G', 'A', 'T', 'E', ' ', 'K', 'E', 'Y'],
    ['B', 'U', 'C', 'K', 'E', 'T', 'S']]

theorem dorisWords_eq : dorisWords = dorisMarks.map String.toList := by decide

/-- A clause that only Doris has stands in a text, in any letter case. -/
def ShowsDoris (s : String) : Prop := Text.Holds dorisWords (Text.upperChars s.toList)

instance (s : String) : Decidable (ShowsDoris s) :=
  inferInstanceAs (Decidable (Text.Holds _ _))

theorem showsDoris_iff {s : String} :
    ShowsDoris s ↔ dorisMarks.any (Text.occursIn · (Text.upper s)) = true := by
  rw [ShowsDoris, ← Text.holds_iff_any, dorisWords_eq, List.any_map, Text.upper]
  unfold Text.occursIn
  rw [String.toList_ofList]
  rfl

/-- **A statement is told for one of MySQL if no clause of Doris stands in it and a unique key comes
with the engine InnoDB.** -/
theorem detectDialect_eq_mysql_iff {s : String} :
    detectDialect s = .mysql ↔ ¬ ShowsDoris s ∧
      (Text.occursIn "UNIQUE KEY" (Text.upper s) = true →
        Text.occursIn "ENGINE=INNODB" (Text.upper s) = true) := by
  rw [showsDoris_iff]
  unfold detectDialect
  simp only
  cases dorisMarks.any (Text.occursIn · (Text.upper s)) <;>
    cases Text.occursIn "UNIQUE KEY" (Text.upper s) <;>
    cases Text.occursIn "ENGINE=INNODB" (Text.upper s) <;> simp

theorem detectDialect_of_showsDoris {s : String} (h : ShowsDoris s) : detectDialect s = .doris := by
  rw [showsDoris_iff] at h
  unfold detectDialect
  simp only [h, Bool.true_or, if_true]

theorem upperChars_of_isAscii {s : String} (h : Text.IsAscii s) :
    Text.upperChars s.toList = s.toList.map Char.toUpper := by
  have hupper := Text.upper_of_isAscii h
  rwa [Text.upper, ← String.toList_inj, String.toList_ofList, Text.toList_asciiUpper] at hupper

theorem showsDoris_iff_of_isAscii {s : String} (h : Text.IsAscii s) :
    ShowsDoris s ↔ Text.Holds dorisWords (s.toList.map Char.toUpper) := by
  rw [ShowsDoris, upperChars_of_isAscii h]

/-! ## Fixed parts -/

/-- A part of a statement that cannot take part in a clause of Doris. -/
structure FixedPart (s : String) : Prop where
  ascii : Text.IsAscii s
  gap : Text.Gap dorisWords (s.toList.map Char.toUpper)

instance (s : String) : Decidable (FixedPart s) :=
  decidable_of_iff (Text.IsAscii s ∧ Text.Gap dorisWords (s.toList.map Char.toUpper))
    ⟨fun ⟨ascii, gap⟩ => ⟨ascii, gap⟩, fun h => ⟨h.ascii, h.gap⟩⟩

theorem FixedPart.gap_upperChars {s : String} (h : FixedPart s) :
    Text.Gap dorisWords (Text.upperChars s.toList) := by
  rw [upperChars_of_isAscii h.ascii]
  exact h.gap

/-! ## Pieces of statements -/

/-- A piece of a statement in which a clause of Doris can only stand in one of some texts, and that
none begun before goes on into. -/
structure Fills (piece : String) (texts : List String) : Prop where
  shows : ShowsDoris piece ↔ ∃ s ∈ texts, ShowsDoris s
  opens : Text.Opens dorisWords (Text.upperChars piece.toList)

namespace Fills

variable {a b : String} {ss us : List String}

theorem nil : Fills "" [] := ⟨by decide, Text.opens_nil⟩

theorem lead (ha : FixedPart a) (hb : ShowsDoris b ↔ ∃ s ∈ ss, ShowsDoris s) :
    Fills (a ++ b) ss := by
  constructor
  · rw [← hb, ShowsDoris, upperChars_toList_append, ha.gap_upperChars.holds_append]
    rfl
  · rw [upperChars_toList_append]
    exact ha.gap_upperChars.opens_append _

theorem text (ha : FixedPart a) (s : String) : Fills (a ++ s) [s] := lead ha (by simp)

theorem fixed (ha : FixedPart a) : Fills a [] := by
  have := lead (b := "") ha nil.shows
  rwa [String.append_empty] at this

theorem append (ha : Fills a ss) (hb : Fills b us) : Fills (a ++ b) (ss ++ us) := by
  constructor
  · have happend : ShowsDoris (a ++ b) ↔ ShowsDoris a ∨ ShowsDoris b := by
      rw [ShowsDoris, upperChars_toList_append]
      exact Text.holds_append_of_opens hb.opens
    simp only [happend, ha.shows, hb.shows, List.mem_append, or_and_right, exists_or]
  · rw [upperChars_toList_append]
    exact ha.opens.append hb.opens

theorem append_fixed (ha : Fills a ss) (hb : FixedPart b) : Fills (a ++ b) ss := by
  have := ha.append (fixed hb)
  rwa [List.append_nil] at this

/-- A piece behind a fixed part. -/
theorem behind (ha : FixedPart a) (hb : Fills b ss) : Fills (a ++ b) ss := lead ha hb.shows

theorem intercalate {sep : String} (hsep : FixedPart sep) {pieces : List String}
    {sss : List (List String)} (h : List.Forall₂ Fills pieces sss) :
    Fills (sep.intercalate pieces) sss.flatten :=
  Text.intercalate_forall₂ nil (fun ha hb => (ha.append_fixed hsep).append hb) h

theorem optional {α : Type} {piece text : α → String} (h : ∀ x, Fills (piece x) [text x])
    (o : Option α) : Fills ((o.map piece).getD "") (o.toList.map text) := by
  cases o with
  | none => exact nil
  | some x => exact h x

end Fills

/-! ## Quoted parts -/

theorem enclosed_eq (quote : Char) (s : String) :
    Text.enclosed quote s = String.singleton quote ++
      (String.ofList (Text.doubled quote s.toList) ++ String.singleton quote) := by
  rw [← String.toList_inj]
  simp [Text.enclosed, Text.enclosedChars]

/-- The inside of a quoted part shows what its text shows. -/
theorem showsDoris_doubled {quote : Char} (hquote : FixedPart (String.singleton quote))
    (hupper : quote.toUpper = quote) (s : String) :
    ShowsDoris (String.ofList (Text.doubled quote s.toList)) ↔ ShowsDoris s := by
  have hchar : Text.upperChar quote = [quote] := by
    rw [Text.upperChar_of_ascii (hquote.ascii quote (by simp)), hupper]
  have hgap : Text.Gap dorisWords [quote] := by
    simpa [Text.upperChars, hchar] using hquote.gap_upperChars
  have := Text.holds_doubled hchar hgap [] s.toList
  rw [List.nil_append, List.nil_append] at this
  rw [ShowsDoris, ShowsDoris, String.toList_ofList]
  exact this

namespace Fills

variable {lead rest : String} {us : List String}

/-- A quoted part and what follows it, if its quotes are fixed parts together with what is before
and behind them. -/
theorem enclosed {quote : Char} (hupper : quote.toUpper = quote)
    (hquote : FixedPart (String.singleton quote))
    (hlead : FixedPart (lead ++ String.singleton quote)) (s : String)
    (hrest : Fills (String.singleton quote ++ rest) us) :
    Fills (lead ++ Text.enclosed quote s ++ rest) (s :: us) := by
  have hinside : Fills (lead ++ String.singleton quote ++
      String.ofList (Text.doubled quote s.toList)) [s] :=
    Fills.lead hlead (by simp [showsDoris_doubled hquote hupper])
  have := hinside.append hrest
  rw [enclosed_eq]
  simpa only [String.append_assoc, List.singleton_append] using this

theorem name (hlead : FixedPart (lead ++ "\x60")) (name : String)
    (hrest : Fills ("\x60" ++ rest) us) :
    Fills (lead ++ quoteName .mysql name ++ rest) (name :: us) :=
  enclosed (by decide) (by decide) hlead name hrest

theorem nameEnd (hlead : FixedPart (lead ++ "\x60")) (s : String) :
    Fills (lead ++ quoteName .mysql s) [s] := by
  have hend : Fills ("\x60" ++ "") [] := fixed (by decide)
  have := name hlead s hend
  rwa [String.append_empty] at this

theorem textEnd (hlead : FixedPart (lead ++ "'")) (s : String) :
    Fills (lead ++ quoteText s) [s] := by
  have hend : Fills (String.singleton '\'' ++ "") [] := fixed (by decide)
  have := enclosed (by decide) (by decide) hlead s hend
  rwa [String.append_empty] at this

end Fills

/-! ## Lines -/

/-- The texts in a column's definition in CREATE TABLE: its name, its type and its DEFAULT clause as
they are written, and its comment. -/
def Column.createTexts (c : Column) : List String :=
  [c.name, (c.clauses .mysql).fullType] ++ (c.clauses .mysql).default?.toList ++
    c.commentText.toList

/-- The texts in a column's line in a conversion to MySQL. -/
def Column.convertTexts (c : Column) : List String :=
  [c.name, c.mysqlType] ++ c.commentText.toList

theorem fills_name_type (name type : String) :
    Fills ("  " ++ quoteName .mysql name ++ (" " ++ type)) [name, type] :=
  .name (by decide) name <| by
    have := Fills.text (a := "\x60 ") (by decide) type
    rwa [show "\x60 " = "\x60" ++ " " by decide, String.append_assoc] at this

theorem fills_commentClause (c : Column) :
    Fills ((c.commentText.map fun text => " COMMENT " ++ quoteText text).getD "")
      c.commentText.toList := by
  have := Fills.optional (fun text => Fills.textEnd (show FixedPart (" COMMENT " ++ "'") by decide)
    text) c.commentText
  rwa [List.map_id'] at this

theorem fills_defaultClause (value : String) :
    Fills (" " ++ ("DEFAULT " ++ value)) ["DEFAULT " ++ value] := by
  have hclause : Fills ("DEFAULT " ++ value) [value] := .text (by decide) value
  have hspace : " DEFAULT " = " " ++ "DEFAULT " := by decide
  have hshows : ShowsDoris value ↔ ∃ s ∈ ["DEFAULT " ++ value], ShowsDoris s := by
    simp [hclause.shows]
  have := Fills.lead (show FixedPart " DEFAULT " by decide) hshows
  rwa [hspace, String.append_assoc] at this

theorem fills_definition (c : Column) :
    Fills (indented (c.definition .mysql)) c.createTexts := by
  have hnotNull : Fills (((c.clauses .mysql).notNull.map (" " ++ ·)).getD "") [] := by
    simp only [Column.clauses]
    split
    · exact .fixed (show FixedPart " NOT NULL" by decide)
    · exact .nil
  have hauto : Fills (((c.clauses .mysql).autoNumber.map (" " ++ ·)).getD "") [] := by
    simp only [Column.clauses]
    split
    · exact .fixed (show FixedPart " AUTO_INCREMENT" by decide)
    · exact .nil
  have hdefault : Fills (((c.clauses .mysql).default?.map (" " ++ ·)).getD "")
      (c.clauses .mysql).default?.toList := by
    simp only [Column.clauses, Option.map_map, Option.toList_map]
    exact .optional fills_defaultClause _
  have hline := ((((fills_name_type c.name (c.clauses .mysql).fullType).append hnotNull).append
    hauto).append hdefault).append (fills_commentClause c)
  rw [indented, Column.definition, ColumnClauses.render_eq, Column.commentClause_eq rfl]
  simpa [Column.createTexts, String.append_assoc] using hline

theorem fills_conversion (c : Column) :
    Fills (indented (quoteName .mysql c.name ++ " " ++ c.mysqlType ++
      (if c.nullable then " NULL" else " NOT NULL") ++ c.commentSuffix)) c.convertTexts := by
  have hnullable : FixedPart (if c.nullable then " NULL" else " NOT NULL") := by
    split <;> decide
  have hline := ((fills_name_type c.name c.mysqlType).append_fixed hnullable).append
    (fills_commentClause c)
  rw [indented, Column.commentSuffix]
  simpa only [Column.convertTexts, String.append_assoc] using hline

theorem fills_keyLine (t : Table) :
    ∃ sss, List.Forall₂ Fills ((t.keyLine "" .mysql).toList.map indented) sss ∧
      sss.flatten = t.keyNames := by
  unfold Table.keyLine
  split
  · rename_i hnone
    exact ⟨[], .nil, by simp [Table.keyNames, List.isEmpty_iff.1 hnone]⟩
  · have hnames : Fills (quoteNames .mysql t.keyNames) (t.keyNames.map fun s => [s]).flatten := by
      refine .intercalate (by decide) ?_
      rw [Text.forall₂_map_map]
      intro name _
      have := Fills.nameEnd (show FixedPart ("" ++ "\x60") by decide) name
      rwa [String.empty_append] at this
    have hline := (Fills.behind (show FixedPart "  PRIMARY KEY (" by decide) hnames).append_fixed
      (show FixedPart ")" by decide)
    rw [← List.flatMap_def, List.flatMap_singleton'] at hline
    have hwords : "  PRIMARY KEY (" = "  " ++ "PRIMARY KEY (" := by decide
    have heq : indented ("" ++ "PRIMARY KEY (" ++ quoteNames .mysql t.keyNames ++ ")") =
        "  PRIMARY KEY (" ++ quoteNames .mysql t.keyNames ++ ")" := by
      unfold indented
      simp only [hwords, String.empty_append, String.append_assoc]
    refine ⟨[t.keyNames], ?_, by simp⟩
    rw [Option.toList_some, List.map_cons, List.map_nil, heq]
    exact .cons hline .nil

/-! ## Statements -/

theorem fills_createBody {lines : List String} {sss : List (List String)} (table : String)
    (h : List.Forall₂ Fills (lines.map indented) sss) :
    Fills (createBody .mysql table lines) (table :: sss.flatten) := by
  have hlines := (Fills.intercalate (show FixedPart ",\n" by decide) h).append_fixed
    (show FixedPart "\n)" by decide)
  have hbody : Fills ("\x60" ++ (" (\n" ++ (",\n".intercalate (lines.map indented) ++ "\n)")))
      sss.flatten := by
    have := Fills.behind (show FixedPart "\x60 (\n" by decide) hlines
    rwa [show "\x60 (\n" = "\x60" ++ " (\n" by decide, String.append_assoc] at this
  have := Fills.name (show FixedPart ("CREATE TABLE " ++ "\x60") by decide) table hbody
  unfold createBody
  simpa only [String.append_assoc] using this

theorem fills_createBody_keyLine {line : Column → String} {texts : Column → List String}
    (h : ∀ c, Fills (indented (line c)) (texts c)) (t : Table) :
    Fills (createBody .mysql t.name (t.columns.map line ++ (t.keyLine "" .mysql).toList))
      (t.name :: ((t.columns.flatMap texts) ++ t.keyNames)) := by
  obtain ⟨sss, hkey, hflat⟩ := fills_keyLine t
  rw [← hflat, List.flatMap_def, ← List.flatten_append]
  refine fills_createBody t.name ?_
  rw [List.map_append]
  refine List.rel_append ?_ hkey
  rw [List.map_map, Text.forall₂_map_map]
  exact fun c _ => h c

namespace Table

/-- A statement of MySQL with the engine InnoDB, given how its columns are defined. -/
def innodbStatement (t : Table) (line : Column → String) (comment : Option String) : String :=
  createBody .mysql t.name (t.columns.map line ++ (t.keyLine "" .mysql).toList) ++
    " ENGINE=InnoDB DEFAULT CHARSET=utf8mb4" ++
    (comment.map fun text => " COMMENT=" ++ quoteText text).getD "" ++ ";"

theorem createStatement_eq_innodb {t : Table} (hengine : t.engine = none) :
    t.createStatement .mysql = t.innodbStatement (·.definition .mysql) t.commentText := by
  have hwords : " ENGINE=InnoDB DEFAULT CHARSET=utf8mb4" =
      " ENGINE=" ++ "InnoDB" ++ " DEFAULT CHARSET=utf8mb4" := by decide
  unfold createStatement innodbStatement mysqlOptions
  simp only [hengine, hwords, String.append_assoc]
  rfl

theorem toMysql_eq_innodb (t : Table) (source : String) :
    t.toMysql source = t.innodbStatement
      (fun c => quoteName .mysql c.name ++ " " ++ c.mysqlType ++
        (if c.nullable then " NULL" else " NOT NULL") ++ c.commentSuffix)
      (t.resolvedComment source) := by
  unfold toMysql innodbStatement
  simp only [String.append_assoc]

section Innodb

variable {t : Table} {line : Column → String} {texts : Column → List String}
  {comment : Option String}

theorem occursIn_innodbStatement :
    Text.occursIn "ENGINE=INNODB" (Text.upper (t.innodbStatement line comment)) = true := by
  have hupper : Text.upper "ENGINE=InnoDB" = "ENGINE=INNODB" := by
    rw [Text.upper_of_isAscii (by decide)]
    decide
  have hwords : " ENGINE=InnoDB DEFAULT CHARSET=utf8mb4" =
      " " ++ ("ENGINE=InnoDB" ++ " DEFAULT CHARSET=utf8mb4") := by decide
  have hoccurs := occursIn_upper
    (createBody .mysql t.name (t.columns.map line ++ (t.keyLine "" .mysql).toList) ++ " ")
    "ENGINE=InnoDB"
    (" DEFAULT CHARSET=utf8mb4" ++
      ((comment.map fun text => " COMMENT=" ++ quoteText text).getD "" ++ ";"))
  rw [hupper] at hoccurs
  unfold innodbStatement
  simpa only [hwords, String.append_assoc] using hoccurs

theorem fills_innodbStatement (hline : ∀ c, Fills (indented (line c)) (texts c)) :
    Fills (t.innodbStatement line comment)
      (t.name :: (t.columns.flatMap texts ++ t.keyNames) ++ comment.toList) := by
  have hcomment := Fills.optional (fun text => Fills.textEnd
    (show FixedPart (" COMMENT=" ++ "'") by decide) text) comment
  rw [List.map_id'] at hcomment
  exact (((fills_createBody_keyLine hline t).append_fixed (by decide)).append
    hcomment).append_fixed (by decide)

/-- **A statement with the engine InnoDB is told for one of MySQL exactly if no text in it shows a
clause that only Doris has.** -/
theorem detectDialect_innodbStatement_iff (hline : ∀ c, Fills (indented (line c)) (texts c))
    (hname : ∀ c : Column, c.name ∈ texts c) :
    detectDialect (t.innodbStatement line comment) = .mysql ↔
      ∀ s ∈ t.name :: t.columns.flatMap texts ++ comment.toList, ¬ ShowsDoris s := by
  rw [detectDialect_eq_mysql_iff, (fills_innodbStatement hline).shows,
    and_iff_left fun _ => occursIn_innodbStatement]
  have hkey : ∀ s ∈ t.keyNames, s ∈ t.columns.flatMap texts := by
    intro s hs
    obtain ⟨c, hc, rfl⟩ := Table.exists_column_of_mem_keyNames hs
    exact List.mem_flatMap.2 ⟨c, hc, hname c⟩
  grind

end Innodb

end Table

/-! ## The statements for MySQL -/

/-- A statement is told for one of MySQL, so that a conversion without a given target makes a
statement of Doris from it. -/
def TakenForMysql (statement : String) : Prop :=
  detectDialect statement = .mysql ∧ conversionTarget statement = .doris

theorem takenForMysql_iff {statement : String} :
    TakenForMysql statement ↔ detectDialect statement = .mysql := by
  refine and_iff_left_of_imp fun h => ?_
  rw [conversionTarget, h]

namespace Table

/-- The texts in the CREATE TABLE statement of a table for MySQL. -/
def createTexts (t : Table) : List String :=
  t.name :: t.columns.flatMap (·.createTexts) ++ t.commentText.toList

/-- The texts in the MySQL statement for a table of Doris. -/
def convertTexts (t : Table) : List String :=
  t.name :: t.columns.flatMap (·.convertTexts) ++ t.commentText.toList

end Table

/-- **A statement that is written for MySQL is told for one exactly if none of its texts shows a
clause that only Doris has:** no clause comes about between them. -/
theorem mysqlStatements_detected_iff (t : Table) (hcolumns : t.columns ≠ [])
    (hengine : t.engine = none) :
    (∃ statement, t.create? .mysql = .ok statement ∧
      (TakenForMysql statement ↔ ∀ s ∈ t.createTexts, ¬ ShowsDoris s)) ∧
    (TakenForMysql (t.toMysql "") ↔ ∀ s ∈ t.convertTexts, ¬ ShowsDoris s) := by
  refine ⟨⟨_, Table.create?_eq_ok .mysql hcolumns, ?_⟩, ?_⟩
  · rw [takenForMysql_iff, Table.createStatement_eq_innodb hengine]
    exact Table.detectDialect_innodbStatement_iff fills_definition
      fun c => by simp [Column.createTexts]
  · rw [takenForMysql_iff, Table.toMysql_eq_innodb]
    exact Table.detectDialect_innodbStatement_iff fills_conversion
      fun c => by simp [Column.convertTexts]

/-- A table whose texts hold the halves of clauses, which no statement joins. -/
theorem mysqlStatements_detected_halves :
    let t : Table :=
      { name := "engine"
        columns := [
          { name := "DISTRIBUTED BY", typeName := "duplicate", default? := some "KEY",
            comment := some "UNIQUE KEY, 10 BUCKET" },
          { name := "S", typeName := "aggregate", isKey := true, comment := some "HASH" }]
        comment := some "=OLAP" }
    (t.columns ≠ [] ∧ t.engine = none) ∧
      (∃ statement, t.create? .mysql = .ok statement ∧ TakenForMysql statement) ∧
      TakenForMysql (t.toMysql "") := by
  intro t
  have hcolumns : t.columns ≠ [] := List.cons_ne_nil _ _
  obtain ⟨⟨statement, hcreate, hiff⟩, hconvert⟩ := mysqlStatements_detected_iff t hcolumns rfl
  have hplain : ∀ s ∈ t.createTexts ++ t.convertTexts, Text.IsAscii s ∧
      ¬ Text.Holds dorisWords (s.toList.map Char.toUpper) := by decide +kernel
  have hsilent : ∀ s ∈ t.createTexts ++ t.convertTexts, ¬ ShowsDoris s := by
    intro s hs
    rw [showsDoris_iff_of_isAscii (hplain s hs).1]
    exact (hplain s hs).2
  rw [List.forall_mem_append] at hsilent
  exact ⟨⟨hcolumns, rfl⟩, ⟨statement, hcreate, hiff.2 hsilent.1⟩, hconvert.2 hsilent.2⟩

/-- A table of buckets is told for one of Doris, and a conversion without a given target goes the
wrong way. -/
theorem buckets_taken_for_doris :
    let t : Table := { name := "buckets", columns := [{ name := "id", typeName := "int" }] }
    (t.columns ≠ [] ∧ t.engine = none) ∧
      (∃ statement, t.create? .mysql = .ok statement ∧
        detectDialect statement = .doris ∧ conversionTarget statement = .mysql) ∧
      detectDialect (t.toMysql "") = .doris ∧ conversionTarget (t.toMysql "") = .mysql := by
  intro t
  have hcolumns : t.columns ≠ [] := List.cons_ne_nil _ _
  have hname : ShowsDoris t.name := by
    rw [showsDoris_iff_of_isAscii (by decide)]
    decide
  have hcreate : detectDialect (t.createStatement .mysql) = .doris := by
    rw [Table.createStatement_eq_innodb rfl]
    exact detectDialect_of_showsDoris
      ((Table.fills_innodbStatement fills_definition).shows.2 ⟨_, by simp, hname⟩)
  have hconvert : detectDialect (t.toMysql "") = .doris := by
    rw [Table.toMysql_eq_innodb]
    exact detectDialect_of_showsDoris
      ((Table.fills_innodbStatement fills_conversion).shows.2 ⟨_, by simp, hname⟩)
  refine ⟨⟨hcolumns, rfl⟩, ⟨_, Table.create?_eq_ok .mysql hcolumns, hcreate, ?_⟩, hconvert, ?_⟩
  · rw [conversionTarget, hcreate]
  · rw [conversionTarget, hconvert]

end TableSql
