import TableSql.Proofs.Import.Statement

/-!
# Which values an import brings

* `FirstActive`, `FirstIndex` — the mapping and the place that count for a column and a header.
* `Imports` — what a column gets in a row.

Principal results: `Imports.unique` (a column gets one value in a row), `bindings_names` and
`bindings_imports` (what the bindings bring), and from them: an import loses nothing, adds nothing
and changes no value, whatever the texts look like.
-/

set_option autoImplicit false

namespace TableSql

/-! ## Where values come from -/

/-- Does a column have an active mapping? -/
def isMapped (mappings : List Mapping) (column : String) : Bool :=
  mappings.any fun m => m.column == column && m.isActive

/-- The mapping of a column that counts: the first active one. -/
def FirstActive (mappings : List Mapping) (column : String) (m : Mapping) : Prop :=
  ∃ before after, mappings = before ++ m :: after ∧ m.column = column ∧ m.isActive = true ∧
    ∀ n ∈ before, n.column = column → n.isActive = false

/-- The place of a header that counts: the first one. -/
def FirstIndex (headers : List String) (name : String) (i : Nat) : Prop :=
  headers[i]? = some name ∧ ∀ j < i, headers[j]? ≠ some name

/-- What a column gets in a row. -/
inductive Imports (mappings : List Mapping) (s : Sheet) (row : List Json) (column : String) :
    Option String → Prop where
  | literal {m : Mapping} {value : String} : FirstActive mappings column m →
      m.source = some (.literal value) → Imports mappings s row column (some value)
  | noHeader {m : Mapping} {name : String} : FirstActive mappings column m →
      m.source = some (.header name) → name ∉ s.headers → Imports mappings s row column none
  | noCell {m : Mapping} {name : String} {i : Nat} : FirstActive mappings column m →
      m.source = some (.header name) → FirstIndex s.headers name i → row.length ≤ i →
      Imports mappings s row column none
  | null {m : Mapping} {name : String} {i : Nat} : FirstActive mappings column m →
      m.source = some (.header name) → FirstIndex s.headers name i → row[i]? = some .null →
      Imports mappings s row column none
  | text {m : Mapping} {name : String} {i : Nat} {value : String} :
      FirstActive mappings column m → m.source = some (.header name) →
      FirstIndex s.headers name i → row[i]? = some (.string value) →
      Imports mappings s row column (some value)
  | json {m : Mapping} {name : String} {i : Nat} {value : Json} :
      FirstActive mappings column m → m.source = some (.header name) →
      FirstIndex s.headers name i → row[i]? = some value → value ≠ .null →
      (∀ text, value ≠ .string text) → Imports mappings s row column (some value.compact)

theorem activeMapping?_eq_some {mappings : List Mapping} {column : String} {m : Mapping} :
    activeMapping? mappings column = some m ↔ FirstActive mappings column m := by
  rw [activeMapping?, List.find?_eq_some_iff_append]
  constructor
  · rintro ⟨hm, before, after, rfl, hbefore⟩
    simp only [Bool.and_eq_true, beq_iff_eq] at hm
    refine ⟨before, after, rfl, hm.1, hm.2, ?_⟩
    intro n hn hcolumn
    simpa [hcolumn] using hbefore n hn
  · rintro ⟨before, after, rfl, hcolumn, hactive, hbefore⟩
    refine ⟨by simp [hcolumn, hactive], before, after, rfl, ?_⟩
    intro n hn
    by_cases h : n.column = column
    · simp [hbefore n hn h]
    · simp [h]

theorem isMapped_eq (mappings : List Mapping) (column : String) :
    isMapped mappings column = (activeMapping? mappings column).isSome :=
  List.isSome_find?.symm

theorem headerIndex?_eq_some {s : Sheet} {name : String} {i : Nat} :
    s.headerIndex? name = some i ↔ FirstIndex s.headers name i := by
  rw [Sheet.headerIndex?, List.findIdx?_eq_some_iff_getElem, FirstIndex]
  constructor
  · rintro ⟨hi, hname, hbefore⟩
    refine ⟨by simpa [List.getElem?_eq_getElem hi] using hname, ?_⟩
    intro j hj
    have hlt : j < s.headers.length := by omega
    simpa [List.getElem?_eq_getElem hlt] using hbefore j hj
  · rintro ⟨hname, hbefore⟩
    obtain ⟨hi, hname⟩ := List.getElem?_eq_some_iff.mp hname
    refine ⟨hi, by simp [hname], ?_⟩
    intro j hj
    have hlt : j < s.headers.length := by omega
    simpa [List.getElem?_eq_getElem hlt] using hbefore j hj

theorem headerIndex?_eq_none {s : Sheet} {name : String} :
    s.headerIndex? name = none ↔ name ∉ s.headers := by
  rw [Sheet.headerIndex?, List.findIdx?_eq_none_iff]
  constructor
  · intro h hname
    simpa using h name hname
  · intro h x hx
    have : x ≠ name := by rintro rfl; exact h hx
    simpa using this

theorem exists_source_of_isActive {m : Mapping} (h : m.isActive = true) :
    ∃ source, m.source = some source := by
  cases hsource : m.source with
  | none => simp [Mapping.isActive, hsource] at h
  | some source => exact ⟨source, rfl⟩

/-! ## Values -/

variable {mappings : List Mapping} {s : Sheet}

theorem imports_cell {column : String} {m : Mapping} {name : String} {i : Nat}
    (hm : FirstActive mappings column m) (hsource : m.source = some (.header name))
    (hi : FirstIndex s.headers name i) (row : List Json) :
    Imports mappings s row column ((Binding.cell (some i)).value? row) := by
  cases hcell : row[i]? with
  | none =>
    have : (Binding.cell (some i)).value? row = none := by simp [Binding.value?, hcell]
    rw [this]
    exact .noCell hm hsource hi (List.getElem?_eq_none_iff.mp hcell)
  | some cell =>
    cases cell with
    | null =>
      have : (Binding.cell (some i)).value? row = none := by simp [Binding.value?, hcell]
      rw [this]
      exact .null hm hsource hi hcell
    | string text =>
      have : (Binding.cell (some i)).value? row = some text := by
        simp [Binding.value?, hcell, cellText]
      rw [this]
      exact .text hm hsource hi hcell
    | _ =>
      simp only [Binding.value?, Option.bind_some, hcell, cellText]
      refine .json hm hsource hi hcell ?_ ?_
      · intro h
        cases h
      · intro text h
        cases h

/-- The binding of a column's first active mapping brings the column's value. -/
theorem imports_bind {column : String} {m : Mapping} {source : Source}
    (hm : FirstActive mappings column m) (hsource : m.source = some source) (row : List Json) :
    Imports mappings s row column ((s.bind source).value? row) := by
  cases source with
  | literal value => exact .literal hm hsource
  | header name =>
    cases hi : s.headerIndex? name with
    | none =>
      rw [Sheet.bind, hi]
      exact .noHeader hm hsource (headerIndex?_eq_none.mp hi)
    | some i =>
      rw [Sheet.bind, hi]
      exact imports_cell hm hsource (headerIndex?_eq_some.mp hi) row

namespace Imports

variable {row : List Json} {column : String} {v w : Option String}

/-- The value of a column is the one that its binding brings. -/
theorem value?_eq (h : Imports mappings s row column v) :
    ((activeMapping? mappings column).bind (·.source)).map (fun source =>
      (s.bind source).value? row) = some v := by
  cases h with
  | literal hm hsource =>
    simp [activeMapping?_eq_some.mpr hm, hsource, Sheet.bind, Binding.value?]
  | noHeader hm hsource hname =>
    simp [activeMapping?_eq_some.mpr hm, hsource, Sheet.bind, headerIndex?_eq_none.mpr hname,
      Binding.value?]
  | noCell hm hsource hi hrow =>
    simp [activeMapping?_eq_some.mpr hm, hsource, Sheet.bind, headerIndex?_eq_some.mpr hi,
      Binding.value?, List.getElem?_eq_none hrow]
  | null hm hsource hi hcell =>
    simp [activeMapping?_eq_some.mpr hm, hsource, Sheet.bind, headerIndex?_eq_some.mpr hi,
      Binding.value?, hcell]
  | text hm hsource hi hcell =>
    simp [activeMapping?_eq_some.mpr hm, hsource, Sheet.bind, headerIndex?_eq_some.mpr hi,
      Binding.value?, hcell, cellText]
  | json hm hsource hi hcell hnull htext =>
    simp [activeMapping?_eq_some.mpr hm, hsource, Sheet.bind, headerIndex?_eq_some.mpr hi,
      Binding.value?, hcell, cellText]

/-- A column gets one value in a row. -/
theorem unique (hv : Imports mappings s row column v) (hw : Imports mappings s row column w) :
    v = w :=
  Option.some.inj (hv.value?_eq.symm.trans hw.value?_eq)

end Imports

namespace Table

theorem bindings_names (t : Table) (mappings : List Mapping) (s : Sheet) :
    (t.bindings mappings s).map (·.1) =
      (t.columns.filter fun c => isMapped mappings c.name).map (·.name) := by
  unfold bindings
  induction t.columns with
  | nil => rfl
  | cons c columns ih =>
    cases hm : activeMapping? mappings c.name with
    | none =>
      have : isMapped mappings c.name = false := by rw [isMapped_eq, hm, Option.isSome_none]
      rw [List.filterMap_cons_none (by simp [hm]), ih, List.filter_cons_of_neg (by simp [this])]
    | some m =>
      have : isMapped mappings c.name = true := by rw [isMapped_eq, hm, Option.isSome_some]
      obtain ⟨-, -, -, -, hactive, -⟩ := activeMapping?_eq_some.mp hm
      obtain ⟨source, hsource⟩ := exists_source_of_isActive hactive
      rw [List.filterMap_cons_some (b := (c.name, s.bind source)) (by simp [hm, hsource]),
        List.filter_cons_of_pos (by exact this), List.map_cons, List.map_cons, ih]

theorem bindings_imports (t : Table) (row : List Json) :
    List.Forall₂ (Imports mappings s row) ((t.bindings mappings s).map (·.1))
      ((t.bindings mappings s).map fun (_, b) => b.value? row) := by
  rw [List.forall₂_map_left_iff, List.forall₂_map_right_iff, List.forall₂_same]
  intro binding hbinding
  obtain ⟨c, -, hc⟩ := List.mem_filterMap.mp hbinding
  obtain ⟨source, hsource, rfl⟩ := Option.map_eq_some_iff.mp hc
  obtain ⟨m, hm, hsource⟩ := Option.bind_eq_some_iff.mp hsource
  exact imports_bind (activeMapping?_eq_some.mp hm) hsource row

/-- An import that fills some column brings the value of each such column in each row that has a
cell. -/
theorem exists_insert_imports (t : Table) (d : Dialect) (hbindings : t.bindings mappings s ≠ [])
    (hrows : s.rows.filter (!·.isEmpty) ≠ []) :
    ∃ body i, t.importStatement d mappings s = "-- Import to " ++ t.name ++ "\n" ++ body ∧
      Insert.IsReadFrom d body i ∧ i.table = t.name ∧
      i.columns = (t.bindings mappings s).map (·.1) ∧
      List.Forall₂ (fun row values => List.Forall₂ (Imports mappings s row) i.columns values)
        (s.rows.filter (!·.isEmpty)) i.tuples := by
  obtain ⟨body, hbody, hread⟩ := t.importStatement_isReadFrom mappings s d hbindings hrows
  refine ⟨body, t.insert mappings s, hbody, hread, rfl, rfl, ?_⟩
  rw [insert, List.forall₂_map_right_iff, List.forall₂_same]
  exact fun row _ => t.bindings_imports row

/-- **An import loses nothing, adds nothing and changes no value.** Whatever the names and values
look like, its statement gives back the table, the mapped columns, and for each row that has a cell
one value per column. -/
theorem importStatement_imports (t : Table) (mappings : List Mapping) (s : Sheet) (d : Dialect)
    (hmapped : ∃ c ∈ t.columns, isMapped mappings c.name = true)
    (hcells : ∃ row ∈ s.rows, row ≠ []) :
    ∃ body i, t.importStatement d mappings s = "-- Import to " ++ t.name ++ "\n" ++ body ∧
      Insert.IsReadFrom d body i ∧
      i.table = t.name ∧
      i.columns = (t.columns.filter fun c => isMapped mappings c.name).map (·.name) ∧
      List.Forall₂ (fun row values => List.Forall₂ (Imports mappings s row) i.columns values)
        (s.rows.filter (!·.isEmpty)) i.tuples := by
  have hbindings : t.bindings mappings s ≠ [] := by
    obtain ⟨c, hc, hmapped⟩ := hmapped
    intro hnil
    have hnames := t.bindings_names mappings s
    rw [hnil, List.map_nil, eq_comm, List.map_eq_nil_iff, List.filter_eq_nil_iff] at hnames
    exact hnames c hc hmapped
  have hrows : s.rows.filter (!·.isEmpty) ≠ [] := by
    obtain ⟨row, hrow, hne⟩ := hcells
    intro hnil
    have hempty := List.filter_eq_nil_iff.mp hnil row hrow
    simp [hne] at hempty
  rw [← t.bindings_names mappings s]
  exact t.exists_insert_imports d hbindings hrows

/-- Texts that try to pass for the end of a value, of a tuple and of a statement, and cells that hold
a number and a list below the mapped header. -/
theorem importStatement_imports_hostile :
    let t : Table :=
      { name := "a"
        columns := [{ name := "x`, `y", typeName := "int" }, { name := "z", typeName := "text" }] }
    let mappings : List Mapping :=
      [{ column := "x`, `y" }, { column := "x`, `y", source := some (.header "h") },
        { column := "z", source := some (.literal "NULL") }]
    let list : Json := .array [.bool true, .string "'"]
    let rows : List (List Json) :=
      [[.string "'), ('"], [.number (.whole 1)], [list], [.null, .number (.whole 1)]]
    let s : Sheet := { headers := ["h"], rows := [] :: rows }
    let body := "INSERT INTO `a` (`x``, ``y`, `z`) VALUES\n('''), (''', 'NULL'),\n" ++
      "('1', 'NULL'),\n('[true,\"''\"]', 'NULL'),\n(NULL, 'NULL');"
    ((∃ c ∈ t.columns, isMapped mappings c.name = true) ∧ ∃ row ∈ s.rows, row ≠ []) ∧
      t.importStatement .mysql mappings s = "-- Import to a\n" ++ body ∧
      ∃ i, Insert.IsReadFrom .mysql body i ∧ i.table = "a" ∧ i.columns = ["x`, `y", "z"] ∧
        i.tuples = [[some "'), ('", some "NULL"], [some "1", some "NULL"],
          [some "[true,\"'\"]", some "NULL"], [none, some "NULL"]] ∧
        List.Forall₂ (fun row values => List.Forall₂ (Imports mappings s row) i.columns values)
          rows i.tuples := by
  intro t mappings list rows s body
  have hmapped : ∃ c ∈ t.columns, isMapped mappings c.name = true := by decide
  have hcells : ∃ row ∈ s.rows, row ≠ [] := ⟨[.string "'), ('"], by simp [s, rows], by simp⟩
  have htext : t.importStatement .mysql mappings s = "-- Import to a\n" ++ body := by
    decide +kernel
  obtain ⟨body', i, hbody, hread, htable, hcolumns, htuples⟩ :=
    t.importStatement_imports mappings s .mysql hmapped hcells
  obtain rfl : body' = body := (String.append_right_inj _).1 (hbody.symm.trans htext)
  have hinsert := hread.unique
    ⟨"a", ["x`, `y", "z"], [[some "'), ('", some "NULL"], [some "1", some "NULL"],
      [some "[true,\"'\"]", some "NULL"], [none, some "NULL"]]⟩ (by decide +kernel)
  exact ⟨⟨hmapped, hcells⟩, htext, i, hread, htable, hcolumns, hinsert ▸ rfl, htuples⟩

end Table

end TableSql
