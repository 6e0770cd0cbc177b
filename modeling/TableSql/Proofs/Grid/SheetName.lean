import TableSql.CommandLine.Run
import TableSql.Proofs.Ddl.KeyConstraint
import TableSql.Proofs.Grid.Extracted

/-!
# Tables named after sheets

Anything can be the name of a sheet, and the name of a key's constraint goes into a statement
without quotes. What is made of a sheet's name is therefore a plain word already.

* `WordChars.plain` — the letters `a`–`z`, the digits and the underscore.
* `PlainFor` — what stands in a plain name for a character.
* `Table.statementNaming` — the statement of a table with any texts where its name stands.

Principal results: `tableNameOfSheet_eq_self_iff` (just the plain names are left as they are),
`createStatement_eq_naming` (a table's name goes into its statement in two ways only),
`create?_plain` (a plain name goes in as it is), `sheet_names_safe`, and `Workspace.extract_unnamed`
(so a grid whose table is given no name needs no care).
-/

set_option autoImplicit false

namespace TableSql

/-! ## Plain names -/

/-- The letters `a`–`z`, the digits and the underscore. -/
def WordChars.plain : WordChars where
  holds c := c.isLower || c.isDigit || c == '_'
  lead := List.all_eq_true.mp (by decide)
  quotes := by decide

theorem plain_holds_iff {c : Char} :
    WordChars.plain.holds c = true ↔ c.isLower = true ∨ c.isDigit = true ∨ c = '_' := by
  simp [WordChars.plain, or_assoc]

/-- What stands in a plain name for a character: itself if it is plain, else an underscore. -/
inductive PlainFor : Char → Char → Prop where
  | kept {c : Char} : WordChars.plain.holds c = true → PlainFor c c
  | replaced {c : Char} : WordChars.plain.holds c = false → PlainFor c '_'

theorem PlainFor.holds {c written : Char} (h : PlainFor c written) :
    WordChars.plain.holds written = true := by
  cases h with
  | kept hc => exact hc
  | replaced _ => decide

theorem PlainFor.eq_of_holds {c written : Char} (h : PlainFor c written)
    (hc : WordChars.plain.holds c = true) : written = c := by
  cases h with
  | kept _ => rfl
  | replaced hother =>
    rw [hc] at hother
    cases hother

theorem plainFor_sheetNameChar (c : Char) : PlainFor c (sheetNameChar c) := by
  have hchar : sheetNameChar c = if WordChars.plain.holds c then c else '_' := rfl
  rw [hchar]
  split
  · rename_i hc
    exact .kept hc
  · rename_i hc
    exact .replaced (Bool.not_eq_true _ ▸ hc)

namespace WordChars.Spells

variable {d : Dialect} {name : String}

theorem lower_eq_self (h : WordChars.plain.Spells name) : Text.lower name = name := by
  have hchars : ∀ c ∈ name.toList, c.toNat < 128 ∧ c.toLower = c := by
    intro c hc
    rw [Text.toLower_eq_self_iff, ← Bool.not_eq_true, Text.isUpper_iff]
    rcases plain_holds_iff.1 (h c hc) with hlower | hdigit | rfl
    · rw [Text.isLower_iff] at hlower
      omega
    · rw [Text.isDigit_iff] at hdigit
      omega
    · decide
  rw [Text.lower_of_isAscii fun c hc => (hchars c hc).1, Text.asciiLower,
    List.map_congr_left fun c hc => (hchars c hc).2, List.map_id', String.ofList_toList]

theorem nameQuote_not_mem (h : WordChars.plain.Spells name) (d : Dialect) :
    d.nameQuote ∉ name.toList := by
  intro hm
  have hplain := h _ hm
  revert hplain
  cases d <;> decide

end WordChars.Spells

/-! ## Names made from the names of sheets -/

variable {sheet : String}

theorem toList_tableNameOfSheet (sheet : String) :
    (tableNameOfSheet sheet).toList = (Text.lower sheet).toList.map sheetNameChar :=
  String.toList_ofList

/-- Each character of the lower case has its own one in the name. -/
theorem forall₂_tableNameOfSheet (sheet : String) :
    List.Forall₂ PlainFor (Text.lower sheet).toList (tableNameOfSheet sheet).toList := by
  rw [toList_tableNameOfSheet, List.forall₂_map_right_iff, List.forall₂_same]
  exact fun c _ => plainFor_sheetNameChar c

theorem spells_tableNameOfSheet (sheet : String) :
    WordChars.plain.Spells (tableNameOfSheet sheet) := by
  intro c hc
  rw [toList_tableNameOfSheet] at hc
  obtain ⟨a, -, rfl⟩ := List.mem_map.1 hc
  exact (plainFor_sheetNameChar a).holds

/-- **Just the plain names are left as they are.** -/
theorem tableNameOfSheet_eq_self_iff :
    tableNameOfSheet sheet = sheet ↔ WordChars.plain.Spells sheet := by
  constructor
  · intro h
    rw [← h]
    exact spells_tableNameOfSheet sheet
  · intro h
    have hkept : ∀ c ∈ sheet.toList, sheetNameChar c = c := fun c hc =>
      (plainFor_sheetNameChar c).eq_of_holds (h c hc)
    rw [← String.toList_inj, toList_tableNameOfSheet, h.lower_eq_self, List.map_congr_left hkept,
      List.map_id']

theorem tableNameOfSheet_eq_empty_iff : tableNameOfSheet sheet = "" ↔ sheet = "" := by
  rw [← String.toList_eq_nil_iff, toList_tableNameOfSheet, List.map_eq_nil_iff,
    String.toList_eq_nil_iff, Text.lower_eq_empty_iff]

/-! ## Names in a statement -/

theorem quoteName_eq_of_not_mem {d : Dialect} {name : String} (h : d.nameQuote ∉ name.toList) :
    quoteName d name = String.singleton d.nameQuote ++ name ++ String.singleton d.nameQuote := by
  rw [← String.toList_inj, toList_quoteName, Text.enclosedChars, Text.doubled_eq_self h,
    String.toList_append, String.toList_append, String.toList_singleton]
  rfl

namespace Table

/-- The comment statements of a table, with a text of one's own where its name stands. -/
def commentsNaming (d : Dialect) (t : Table) (written : String) : List String :=
  t.columns.filterMap (fun c => c.commentText.map fun text =>
    "COMMENT ON COLUMN " ++ written ++ "." ++ quoteName d c.name ++ " IS " ++ quoteText text ++
      ";\n") ++
  (t.commentText.map fun text =>
    "COMMENT ON TABLE " ++ written ++ " IS " ++ quoteText text ++ ";\n").toList

/-- The statement of a table, with texts of one's own where its name stands between quotes and for
the name of the key's constraint, which some dialects have. -/
def statementNaming (d : Dialect) (t : Table) (written constraint : String) : String :=
  let body (lines : List String) :=
    "CREATE TABLE " ++ written ++ " (\n" ++ ",\n".intercalate (lines.map indented) ++ "\n)"
  match d with
  | .mysql =>
    body (t.columns.map (·.definition d) ++ (t.keyLine "" d).toList) ++ t.mysqlOptions ++ ";"
  | .doris => body (t.keysFirst.map (·.definition d)) ++ dorisOptions ++ ";"
  | .postgresql | .oracle | .sqlserver =>
    let comments := t.commentsNaming d written
    body (t.columns.map (·.definition d) ++
      (t.keyLine ("CONSTRAINT " ++ constraint ++ " ") d).toList) ++ ";" ++
        if comments.isEmpty then "" else "\n\n" ++ String.join comments

end Table

/-- **A table's name goes into its statement in two ways only:** between quotes, and behind `pk_` as
the name of the key's constraint. -/
theorem createStatement_eq_naming (d : Dialect) (t : Table) (other : String) :
    t.createStatement d =
      { t with name := other }.statementNaming d (quoteName d t.name) ("pk_" ++ t.name) := by
  have hconstraint :
      "CONSTRAINT pk_" ++ t.name ++ " " = "CONSTRAINT " ++ ("pk_" ++ t.name) ++ " " := by
    rw [← String.append_assoc]
    rfl
  cases d
  case mysql | doris => rfl
  all_goals
    unfold Table.createStatement Table.createWithComments Table.statementNaming
    rw [hconstraint]
    rfl

/-- **A plain name goes into a statement as it is.** -/
theorem create?_plain {d : Dialect} {t : Table} (h : WordChars.plain.Spells t.name)
    (other : String) {statement : String} :
    t.create? d = .ok statement ↔ t.columns ≠ [] ∧
      statement = { t with name := other }.statementNaming d
        (String.singleton d.nameQuote ++ t.name ++ String.singleton d.nameQuote)
        ("pk_" ++ t.name) := by
  rw [Table.create?_eq_ok_iff, createStatement_eq_naming d t other,
    quoteName_eq_of_not_mem (h.nameQuote_not_mem d)]

/-! ## Tables named after sheets -/

/-- **A name made from the name of a sheet is safe wherever a table's name is used.** It is made of
the letters `a`–`z`, digits and underscores, one for each character of the lower case; making it
again changes nothing; and only an empty name makes an empty one. In a statement for a table that is
read from a grid under that name it stands as it is, with just the two quotes around it, and the
name of the key's constraint is one plain word. -/
theorem sheet_names_safe (sheet : String) :
    (WordChars.plain.Spells (tableNameOfSheet sheet) ∧
      List.Forall₂ PlainFor (Text.lower sheet).toList (tableNameOfSheet sheet).toList ∧
      tableNameOfSheet (tableNameOfSheet sheet) = tableNameOfSheet sheet ∧
      (tableNameOfSheet sheet = "" ↔ sheet = "")) ∧
    ∀ (d : Dialect) (grid : List (List String)) (template : GridTemplate) (t : Table),
      extractTable? (tableNameOfSheet sheet) grid template = .ok t →
      let quote := String.singleton d.nameQuote
      let written := quote ++ tableNameOfSheet sheet ++ quote
      let constraint := "pk_" ++ tableNameOfSheet sheet
      quoteName d t.name = written ∧ Identifier .plain d.nameQuote constraint [] ∧
        ∀ other statement, t.create? d = .ok statement ↔ t.columns ≠ [] ∧
          statement = { t with name := other }.statementNaming d written constraint := by
  have hplain := spells_tableNameOfSheet sheet
  refine ⟨⟨hplain, forall₂_tableNameOfSheet sheet, tableNameOfSheet_eq_self_iff.2 hplain,
    tableNameOfSheet_eq_empty_iff⟩, ?_⟩
  intro d grid template t hread quote written constraint
  have hname := name_of_extractTable? hread
  refine ⟨?_, hplain.identifier d.nameQuote, fun other statement => ?_⟩
  · rw [hname]
    exact quoteName_eq_of_not_mem (hplain.nameQuote_not_mem d)
  · have hcreate : t.create? d = .ok statement ↔ _ := create?_plain (hname ▸ hplain) other
    rwa [hname] at hcreate

/-- A capital that becomes two characters, one from outside ASCII that becomes a letter, and the
quotes of all dialects. -/
theorem sheet_names_safe_foreign :
    let sheet := "\u212Aİ`s \"2\""
    let grid := [["Name", "Type", "Comment", "PK"], ["id", "bigint", "it's", "Y"]]
    let template : GridTemplate :=
      { startRow := 2, nameColumn := "A", typeColumn := "B", commentColumn := some "C",
        keyColumn := some "D" }
    let t : Table :=
      { name := "ki__s__2_"
        columns :=
          [{ name := "id", typeName := "bigint", nullable := false, isKey := true,
             comment := some "it's" }] }
    tableNameOfSheet sheet = t.name ∧ extractTable? (tableNameOfSheet sheet) grid template = .ok t ∧
      tableNameOfSheet t.name = t.name ∧ Identifier .plain '"' "pk_ki__s__2_" [] ∧
      t.create? .oracle =
        .ok ({ t with name := "" }.statementNaming .oracle "\"ki__s__2_\"" "pk_ki__s__2_") := by
  intro sheet grid template t
  have hname : tableNameOfSheet sheet = t.name := by decide +kernel
  have hread : extractTable? (tableNameOfSheet sheet) grid template = .ok t := by decide +kernel
  obtain ⟨⟨-, -, hagain, -⟩, hstatement⟩ := sheet_names_safe sheet
  obtain ⟨-, hconstraint, hcreate⟩ := hstatement .oracle grid template t hread
  rw [hname] at hagain hconstraint hcreate
  exact ⟨hname, hread, hagain, hconstraint, (hcreate "" _).2 ⟨by decide, rfl⟩⟩

/-- Without a name of its own, a grid's table is named after the file. -/
theorem exists_stem_of_gridTableName {path name : String} {given : Option String}
    (hgiven : nonEmpty? (given.map Text.strip) = none) (h : gridTableName path given = .ok name) :
    ∃ sheet, Path.stem? path = some sheet ∧ name = tableNameOfSheet sheet ∧ name ≠ "" := by
  unfold gridTableName at h
  rw [hgiven] at h
  simp only at h
  split at h
  · rename_i made hmade
    cases h
    obtain ⟨hmade, hne⟩ := nonEmpty?_eq_some_iff.1 hmade
    obtain ⟨sheet, hstem, rfl⟩ := Option.map_eq_some_iff.1 hmade
    exact ⟨sheet, hstem, rfl, hne⟩
  · cases h

/-- **A grid whose table is given no name needs no care:** the table gets a name after the file that
is not empty, and in the output that name stands as it is. -/
theorem Workspace.extract_unnamed {w : Workspace} {template : NamedTemplate} {d : Dialect}
    {path : String} {given : Option String} {output : String}
    (hgiven : nonEmpty? (given.map Text.strip) = none)
    (h : w.extract template d path given = .ok output) (other : String) :
    ∃ sheet grid t, Path.stem? path = some sheet ∧ tableNameOfSheet sheet ≠ "" ∧
      (w.file path).grid path = .ok grid ∧
      extractTable? (tableNameOfSheet sheet) grid template.layout = .ok t ∧
      output = template.note ++ { t with name := other }.statementNaming d
        (String.singleton d.nameQuote ++ tableNameOfSheet sheet ++ String.singleton d.nameQuote)
        ("pk_" ++ tableNameOfSheet sheet) := by
  unfold Workspace.extract orFail at h
  simp only [Result.bind_eq_ok, Result.mapError_eq_ok] at h
  obtain ⟨name, hname, grid, hgrid, t, hread, statement, hcreate, houtput⟩ := h
  cases houtput
  obtain ⟨sheet, hstem, rfl, hne⟩ := exists_stem_of_gridTableName hgiven hname
  have htable := name_of_extractTable? hread
  have hplain : WordChars.plain.Spells t.name := htable ▸ spells_tableNameOfSheet sheet
  obtain ⟨-, rfl⟩ := (create?_plain hplain other).1 hcreate
  rw [htable]
  exact ⟨sheet, grid, t, hstem, hne, hgrid, hread, rfl⟩

end TableSql
