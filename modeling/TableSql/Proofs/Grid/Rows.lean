import Mathlib.Data.List.Forall2
import TableSql.Proofs.Grid.Extract

/-!
# The rows of a grid are read one by one

Whoever walks down a grid looks at all cells of a row before passing over a blank one. All the same
only the cells count that the template names, and no row counts for another one.

* `GridTemplate.Names` — the places that a template names.
* `GridTemplate.SameRow`, `GridTemplate.SameCells` — rows and grids with the same texts there.
* `GridTemplate.Places.Describes` — rows with a name and a type.
* `GridTemplate.Places.gather` — one step of the walk: a row behind the columns gathered so far.

Principal results: `GridTemplate.Places.column?_congr` (a row describes what its named cells say),
`GridTemplate.Places.gather_eq` and `GridTemplate.Places.foldl_gather` (what one step and a whole
walk gather), `extractTable?_eq_gather` (a table is read by such a walk) and `tables_read_by_rows`.
-/

set_option autoImplicit false

namespace TableSql

theorem cellAt_eq (row : List String) (place : Nat) :
    cellAt row place = Text.strip (row.getD place "") := by
  have hempty : Text.strip "" = "" := by decide
  unfold cellAt
  rw [List.getD_eq_getElem?_getD]
  cases row[place]? with
  | none => exact hempty.symm
  | some cell => rfl

theorem Column.name_ofCells (name typeCell : String) :
    (Column.ofCells name typeCell).name = name := by
  unfold Column.ofCells
  split
  · rfl
  · rfl

namespace GridTemplate

variable {t : GridTemplate} {p : Places} {row row' : List String}

/-- The places that a template names. -/
def Names (t : GridTemplate) (place : Nat) : Prop :=
  ∃ letters ∈ t.letters, columnIndex? letters = .ok place

/-- Two rows with the same texts at the places that a template names, white space around them apart;
a missing cell is empty. -/
def SameRow (t : GridTemplate) (row row' : List String) : Prop :=
  ∀ place, t.Names place → Text.strip (row.getD place "") = Text.strip (row'.getD place "")

/-- Two grids that are the same to a template, row by row from its first row on. -/
def SameCells (t : GridTemplate) (grid grid' : List (List String)) : Prop :=
  List.Forall₂ t.SameRow (grid.drop (t.startRow.toNat - 1)) (grid'.drop (t.startRow.toNat - 1))

namespace Places

/-- The places of a template in a list. -/
def toList (p : Places) : List Nat := [p.name, p.typeName] ++ p.comment.toList ++ p.key.toList

theorem mem_of_place? {letters : Option String} {place? : Option Nat}
    (h : GridTemplate.place? letters = .ok place?) {place : Nat} :
    place ∈ place?.toList ↔ ∃ text ∈ letters.toList, columnIndex? text = .ok place := by
  cases letters with
  | none =>
    cases h
    simp
  | some text =>
    obtain ⟨index, hindex, rfl⟩ := Result.map_eq_ok.1 h
    simp [hindex, eq_comm]

theorem mem_toList_iff (h : t.places? = .ok p) {place : Nat} :
    place ∈ p.toList ↔ t.Names place := by
  obtain ⟨hname, htype, hcomment, hkey⟩ := places?_eq_ok_iff.1 h
  unfold toList Names letters
  simp only [List.mem_append, or_and_right, exists_or, mem_of_place? hcomment, mem_of_place? hkey,
    List.mem_cons, List.not_mem_nil, or_false, exists_eq_left, hname, htype, Except.ok.injEq]
  rw [eq_comm, eq_comm (a := place)]

theorem cellAt_eq_of_sameRow (hp : t.places? = .ok p) (h : t.SameRow row row') {place : Nat}
    (hplace : place ∈ p.toList) : cellAt row place = cellAt row' place := by
  rw [cellAt_eq, cellAt_eq]
  exact h place ((mem_toList_iff hp).1 hplace)

/-- **A row describes what its cells at the places of the template say.** -/
theorem column?_congr (hp : t.places? = .ok p) (h : t.SameRow row row') :
    p.column? row = p.column? row' := by
  have hname : cellAt row p.name = cellAt row' p.name :=
    cellAt_eq_of_sameRow hp h (by simp [toList])
  have htype : cellAt row p.typeName = cellAt row' p.typeName :=
    cellAt_eq_of_sameRow hp h (by simp [toList])
  have hkey : p.key.map (fun place => isKeyMark (cellAt row place)) =
      p.key.map fun place => isKeyMark (cellAt row' place) := by
    refine Option.map_congr fun place hplace => congrArg isKeyMark ?_
    exact cellAt_eq_of_sameRow hp h (by simp [toList, hplace])
  have hcomment : p.comment.map (cellAt row) = p.comment.map (cellAt row') :=
    Option.map_congr fun place hplace => cellAt_eq_of_sameRow hp h (by simp [toList, hplace])
  unfold column?
  rw [hname, htype, hkey, hcomment]

/-! ## Walking down the rows -/

/-- A row with a name and a type. -/
def Describes (p : Places) (row : List String) : Prop :=
  Text.strip (row.getD p.name "") ≠ "" ∧ Text.strip (row.getD p.typeName "") ≠ ""

instance (p : Places) : DecidablePred p.Describes := fun _ => inferInstanceAs (Decidable (_ ∧ _))

/-- One more row behind the columns gathered so far. A row of blank cells is passed over before
anything is looked for in it. -/
def gather (p : Places) (columns : List Column) (row : List String) : List Column :=
  if row.all Text.isBlankText then columns else columns ++ (p.column? row).toList

theorem column?_eq_none_iff : p.column? row = none ↔ ¬ p.Describes row := by
  unfold column? Describes
  rw [← cellAt_eq, ← cellAt_eq, ne_eq, ne_eq, ← not_or, not_not]
  by_cases hcells : cellAt row p.name = "" ∨ cellAt row p.typeName = ""
  · simp only [hcells, if_true]
  · simp only [hcells, if_false, reduceCtorEq]

theorem name_of_column? {c : Column} (h : p.column? row = some c) :
    c.name = Text.strip (row.getD p.name "") := by
  unfold column? at h
  simp only at h
  split at h
  · cases h
  cases h
  rw [← cellAt_eq]
  exact Column.name_ofCells _ _

/-- A row of blank cells has no name, wherever the template looks for it. -/
theorem not_describes_of_blank (h : row.all Text.isBlankText = true) : ¬ p.Describes row := by
  rintro ⟨hname, -⟩
  apply hname
  rw [← Text.isBlankText_iff, List.getD_eq_getElem?_getD]
  cases hcell : row[p.name]? with
  | none => rfl
  | some cell => exact List.all_eq_true.1 h cell (List.mem_of_getElem? hcell)

/-- **One step: the test for blank cells makes no difference.** -/
theorem gather_eq (p : Places) (columns : List Column) (row : List String) :
    p.gather columns row = columns ++ (p.column? row).toList := by
  unfold gather
  split
  · rename_i hblank
    rw [column?_eq_none_iff.2 (not_describes_of_blank hblank), Option.toList_none, List.append_nil]
  · rfl

/-- **A whole walk gathers the columns of the rows, behind those gathered before.** -/
theorem foldl_gather (p : Places) (rows : List (List String)) (columns : List Column) :
    rows.foldl p.gather columns = columns ++ rows.filterMap p.column? := by
  induction rows generalizing columns with
  | nil => simp
  | cons row rows ih =>
    rw [List.foldl_cons, ih, gather_eq, List.append_assoc]
    cases hrow : p.column? row with
    | none => rw [List.filterMap_cons_none hrow, Option.toList_none, List.nil_append]
    | some c => rw [List.filterMap_cons_some hrow, Option.toList_some, List.singleton_append]

/-- **So grids that are the same to a template are walked down alike.** -/
theorem foldl_gather_congr (hp : t.places? = .ok p) {rows rows' : List (List String)}
    (h : List.Forall₂ t.SameRow rows rows') (columns : List Column) :
    rows.foldl p.gather columns = rows'.foldl p.gather columns := by
  induction h generalizing columns with
  | nil => rfl
  | cons hrow _ ih =>
    rw [List.foldl_cons, List.foldl_cons, gather_eq, gather_eq, column?_congr hp hrow]
    exact ih _

/-- The names of the columns are those of the rows with a name and a type, in their order. -/
theorem map_name_filterMap_column? (p : Places) (rows : List (List String)) :
    (rows.filterMap p.column?).map (·.name) =
      (rows.filter p.Describes).map fun row => Text.strip (row.getD p.name "") := by
  induction rows with
  | nil => rfl
  | cons row rows ih =>
    cases hrow : p.column? row with
    | none =>
      have hnot := column?_eq_none_iff.1 hrow
      rw [List.filterMap_cons_none hrow, List.filter_cons_of_neg (by simpa using hnot), ih]
    | some c =>
      have hdescribes : p.Describes row := by
        by_contra hnot
        rw [column?_eq_none_iff.2 hnot] at hrow
        cases hrow
      rw [List.filterMap_cons_some hrow, List.filter_cons_of_pos (by simpa using hdescribes),
        List.map_cons, List.map_cons, ih, name_of_column? hrow]

end Places

end GridTemplate

/-! ## Tables -/

/-- **A table is read by walking down the rows** from the first one of the template on. -/
theorem extractTable?_eq_gather (name : String) (grid : List (List String))
    (template : GridTemplate) :
    extractTable? name grid template = do
      let places ← template.places?
      if template.startRow = 0 then
        throw (.invalidAddress "0" "data_start_row is 1-based and must be at least 1")
      let rows := grid.drop (template.startRow.toNat - 1)
      return { name, columns := rows.foldl places.gather [] } := by
  simp only [GridTemplate.Places.foldl_gather, List.nil_append]
  rfl

/-- **A table is read from the cells that the template names, row by row.** Other cells change
nothing, not even a refusal. The columns have the names of the rows with a name and a type, in the
order of the rows; and reading a grid on top of another one gives the columns of the upper one with
those of the lower one, read from its first row on, behind them. -/
theorem tables_read_by_rows (name : String) (template : GridTemplate) :
    (∀ grid grid', template.SameCells grid grid' →
      extractTable? name grid template = extractTable? name grid' template) ∧
    ∀ grid t, extractTable? name grid template = .ok t →
      (∃ places, template.places? = .ok places ∧
        t.columns.map (·.name) =
          ((grid.drop (template.startRow.toNat - 1)).filter places.Describes).map fun row =>
            Text.strip (row.getD places.name "")) ∧
      ∀ above below, template.startRow.toNat - 1 ≤ above.length →
        ∃ t₁ t₂, extractTable? name above template = .ok t₁ ∧
          extractTable? name below { template with startRow := 1 } = .ok t₂ ∧
          extractTable? name (above ++ below) template =
            .ok { t₁ with columns := t₁.columns ++ t₂.columns } := by
  refine ⟨fun grid grid' hcells => ?_, fun grid t hread => ?_⟩
  · rw [extractTable?_eq_gather, extractTable?_eq_gather]
    cases hplaces : template.places? with
    | error refusal => rfl
    | ok places =>
      have hcolumns := GridTemplate.Places.foldl_gather_congr hplaces hcells []
      simp only [bind, Except.bind, hcolumns]
  · obtain ⟨hrow, places, hplaces, rfl⟩ := extractTable?_eq_ok_iff.1 hread
    refine ⟨⟨places, hplaces, places.map_name_filterMap_column? _⟩, ?_⟩
    intro above below habove
    have hfirst : (1 : UInt64) ≠ 0 := by decide
    refine ⟨_, _, extractTable?_eq_ok_iff.2 ⟨hrow, places, hplaces, rfl⟩,
      extractTable?_eq_ok_iff.2 ⟨hfirst, places, hplaces, rfl⟩,
      extractTable?_eq_ok_iff.2 ⟨hrow, places, hplaces, ?_⟩⟩
    rw [List.drop_append_of_le_length habove, List.filterMap_append]
    rfl

/-- Two readings of one list: with notes beside it and without them. Rows that hold only a note are
passed over in both. -/
theorem tables_read_by_rows_notes :
    let template : GridTemplate :=
      { startRow := 2, nameColumn := "B", typeColumn := "c", keyColumn := some "E" }
    let grid : List (List String) :=
      [["No", "Name"], ["1", " id ", "int", "", "Y"], [], ["", "", "", "", "", "see below"],
        ["2", "name", "varchar(20)"]]
    let grid' : List (List String) :=
      [[], ["", "id", "\tint", "first", "Y\n"], ["old:"], [], ["", "name", "varchar(20)", "", " "]]
    let t : Table :=
      { name := "users"
        columns := [
          { name := "id", typeName := "int", nullable := false, isKey := true },
          { name := "name", typeName := "varchar", length := some 20 }] }
    template.SameCells grid grid' ∧ extractTable? "users" grid template = .ok t ∧
      template.startRow.toNat - 1 ≤ grid.length ∧
      extractTable? "users" grid' template = .ok t ∧
      extractTable? "users" (grid ++ [["", "id", "int"]]) template =
        .ok { t with columns := t.columns ++ [{ name := "id", typeName := "int" }] } := by
  intro template grid grid' t
  have hplaces : template.places? = .ok ⟨1, 2, none, some 4⟩ := by decide +kernel
  have hcells : template.SameCells grid grid' := by
    have hsame : ∀ row row', (∀ place ∈ [1, 2, 4], Text.strip (row.getD place "") =
        Text.strip (row'.getD place "")) → template.SameRow row row' := by
      intro row row' h place hplace
      exact h place ((GridTemplate.Places.mem_toList_iff hplaces).2 hplace)
    exact .cons (hsame _ _ (by decide)) (.cons (hsame _ _ (by decide))
      (.cons (hsame _ _ (by decide)) (.cons (hsame _ _ (by decide)) .nil)))
  have hread : extractTable? "users" grid template = .ok t := by decide +kernel
  have hrows : template.startRow.toNat - 1 ≤ grid.length := by decide
  obtain ⟨hsame, hrest⟩ := tables_read_by_rows "users" template
  obtain ⟨-, happend⟩ := hrest grid t hread
  obtain ⟨t₁, t₂, h₁, h₂, h⟩ := happend grid [["", "id", "int"]] hrows
  have hlower : extractTable? "users" [["", "id", "int"]] { template with startRow := 1 } =
      .ok { name := "users", columns := [{ name := "id", typeName := "int" }] } := by decide +kernel
  obtain rfl : t = t₁ := Except.ok.inj (hread.symm.trans h₁)
  obtain rfl := Except.ok.inj (hlower.symm.trans h₂)
  exact ⟨hcells, hread, hrows, (hsame grid grid' hcells).symm.trans hread, h⟩

end TableSql
