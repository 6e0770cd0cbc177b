import TableSql.Dml
import TableSql.Proofs.Grid.Extract
import TableSql.Proofs.Grid.TypeCell
import TableSql.Proofs.Validation

/-!
# Tables read from a grid are fit for statements

A grid is written by hand: rows are short, cells are blank or padded, and types come in forms that
nobody expects. What is read from it is tidy all the same, so nothing behind the reader has to look
at it again.

* `CellText` — what a cell with something in it leaves.
* `Column.Extracted` — what holds of a column that is read from a row.

Principal results: `GridTemplate.Places.extracted_of_column?` (every row that describes a column
describes such a one), `extracted_of_extractTable?` (so all columns of a table that is read are
such) and `extracted_table_fit` (and every statement can be made of the table, if it has columns at
all).
-/

set_option autoImplicit false

namespace TableSql

/-- A text with something in it and no white space at either end. -/
structure CellText (text : String) : Prop where
  ne_empty : text ≠ ""
  stripped : Text.Stripped text.toList

namespace CellText

variable {text : String}

theorem isBlankText_eq_false (h : CellText text) : Text.isBlankText text = false := by
  rw [← Bool.not_eq_true, Text.isBlankText_iff, Text.strip, h.stripped.stripChars_eq,
    String.ofList_toList]
  exact h.ne_empty

end CellText

theorem IsTypeName.cellText {name : String} (h : IsTypeName name) : CellText name :=
  ⟨h.ne_empty, h.stripped⟩

/-- Whatever is read from a row has no white space at its ends: what is missing is empty, and
everything else is stripped. -/
theorem stripped_cellAt (row : List String) (place : Nat) :
    Text.Stripped (cellAt row place).toList := by
  unfold cellAt
  cases row[place]? with
  | none => exact .of_forall (by simp)
  | some cell =>
    rw [Option.map_some, Option.getD_some, Text.strip, String.toList_ofList]
    exact .stripChars _

/-! ## Columns -/

/-- A column as it is read from a row of a grid. -/
structure Column.Extracted (c : Column) : Prop where
  name : CellText c.name
  typeName : CellText c.typeName
  nullable : c.nullable = true ↔ c.isKey = false
  default? : c.default? = none
  scale : c.scale.isSome = true → c.length.isSome = true
  no_parenthesis : c.length.isSome = true → '(' ∉ c.typeName.toList ∧ ')' ∉ c.typeName.toList
  comment : ∀ text ∈ c.comment, CellText text

/-- **A type cell is cut into a name without parentheses and its numbers, or kept as it is.** -/
theorem Column.ofCells_spec (name : String) {typeCell : String} (h : CellText typeCell) :
    ∃ typeName length scale, Column.ofCells name typeCell = { name, typeName, length, scale } ∧
      CellText typeName ∧ (scale.isSome = true → length.isSome = true) ∧
        (length.isSome = true → '(' ∉ typeName.toList ∧ ')' ∉ typeName.toList) := by
  unfold Column.ofCells
  cases hsplit : splitPrecision? typeCell with
  | none => exact ⟨typeCell, none, none, rfl, h, by simp, by simp⟩
  | some parts =>
    obtain ⟨typeName, length, scale⟩ := parts
    have htype := (splitPrecision?_eq_some_iff.1 hsplit).isTypeName
    exact ⟨typeName, some length, scale, rfl, htype.cellText, fun _ => rfl,
      fun _ => htype.no_parenthesis⟩

/-- **Every row that describes a column describes a tidy one.** -/
theorem GridTemplate.Places.extracted_of_column? {p : GridTemplate.Places} {row : List String}
    {c : Column} (h : p.column? row = some c) : c.Extracted := by
  unfold GridTemplate.Places.column? at h
  simp only at h
  split at h
  · cases h
  rename_i hcells
  rw [not_or] at hcells
  obtain ⟨typeName, length, scale, hcolumn, htype, hscale, hparenthesis⟩ :=
    Column.ofCells_spec (cellAt row p.name) ⟨hcells.2, stripped_cellAt row p.typeName⟩
  rw [hcolumn, Option.some.injEq] at h
  subst h
  refine ⟨⟨hcells.1, stripped_cellAt row p.name⟩, htype, by simp, rfl, hscale, hparenthesis, ?_⟩
  intro text htext
  obtain ⟨hcell, hne⟩ := nonEmpty?_eq_some_iff.1 htext
  obtain ⟨place, -, rfl⟩ := Option.map_eq_some_iff.1 hcell
  exact ⟨hne, stripped_cellAt row place⟩

/-! ## Tables -/

variable {name : String} {grid : List (List String)} {template : GridTemplate} {t : Table}

theorem name_of_extractTable? (h : extractTable? name grid template = .ok t) : t.name = name := by
  obtain ⟨-, _, -, rfl⟩ := extractTable?_eq_ok_iff.1 h
  rfl

/-- **All columns of a table that is read from a grid are tidy.** -/
theorem extracted_of_extractTable? (h : extractTable? name grid template = .ok t) :
    ∀ c ∈ t.columns, c.Extracted := by
  obtain ⟨-, places, -, rfl⟩ := extractTable?_eq_ok_iff.1 h
  intro c hc
  obtain ⟨row, -, hrow⟩ := List.mem_filterMap.1 hc
  exact GridTemplate.Places.extracted_of_column? hrow

/-- **A table that is read from a grid is fit for statements.** Its columns are tidy; if there are
any, then no check in any dialect finds a defect in it and every statement can be made of it, and
otherwise the check and all statements fail for the want of columns. -/
theorem extracted_table_fit (hname : Text.isBlankText name = false)
    (h : extractTable? name grid template = .ok t) :
    (∀ c ∈ t.columns, c.Extracted) ∧
      (t.columns ≠ [] → ∀ d, (t.check d).defects = [] ∧ (∃ s, t.create? d = .ok s) ∧
        ∀ kind, ∃ s, t.sample? kind d = .ok s) ∧
      (t.columns = [] → ∀ d, (t.check d).defects = [.refused (.noColumns name)] ∧
        t.create? d = .error (.noColumns name) ∧
        ∀ kind, t.sample? kind d = .error (.noColumns name)) := by
  have hextracted := extracted_of_extractTable? h
  obtain rfl := name_of_extractTable? h
  refine ⟨hextracted, fun hcolumns d => ?_, fun hnone d => ?_⟩
  · have hnames : ∀ c ∈ t.columns, Text.isBlankText c.name = false := fun c hc =>
      (hextracted c hc).name.isBlankText_eq_false
    exact ⟨Table.defects_check_eq_nil_iff.2 ⟨hname, hcolumns, hnames⟩,
      ⟨_, Table.create?_eq_ok d hcolumns⟩, fun kind => Table.exists_sample? kind d hcolumns⟩
  · rw [Table.check_of_noColumns d hname hnone]
    exact ⟨rfl, Table.create?_eq_error d hnone, fun kind => Table.sample?_eq_error kind d hnone⟩

/-- A grid as people leave it: padded cells, short rows, a length that fits no word, a type whose
parenthesis holds no number. -/
def handwrittenGrid : List (List String) :=
  [["Column", "Type", "Comment", "PK"], [" ", "", "\t"], [" user id\t", " bigint ( 20 ) ", "", " 是 "],
    ["price", "decimal( 10 , 2 )", "\u3000in yen\u3000", "no"], ["kind", "enum('a', 'b') "], ["orphan"],
    ["", "int", "no name"], ["size", "varchar(99999999999)", " ", "YES"]]

theorem extracted_table_fit_handwritten :
    let template : GridTemplate :=
      { startRow := 2, nameColumn := "A", typeColumn := " b", commentColumn := some "C",
        keyColumn := some "d" }
    let t : Table :=
      { name := "goods"
        columns :=
          [{ name := "user id", typeName := "bigint", length := some 20, nullable := false,
             isKey := true },
           { name := "price", typeName := "decimal", length := some 10, scale := some 2,
             comment := some "in yen" },
           { name := "kind", typeName := "enum('a', 'b')" },
           { name := "size", typeName := "varchar(99999999999)", nullable := false,
             isKey := true }] }
    Text.isBlankText "goods" = false ∧ extractTable? "goods" handwrittenGrid template = .ok t ∧
      (∀ c ∈ t.columns, c.Extracted) ∧
      ∀ d, (t.check d).defects = [] ∧ (∃ s, t.create? d = .ok s) ∧
        ∀ kind, ∃ s, t.sample? kind d = .ok s := by
  intro template t
  have hname : Text.isBlankText "goods" = false := by decide
  have hread : extractTable? "goods" handwrittenGrid template = .ok t := by decide +kernel
  obtain ⟨hcolumns, hfit, -⟩ := extracted_table_fit hname hread
  exact ⟨hname, hread, hcolumns, hfit (by simp [t])⟩

end TableSql
