import TableSql.Proofs.Import.Values

/-!
# What an automatic import reads

* `spelling` — a name without what the matching of headers ignores.
* `boundIndex?`, `Table.boundColumns` — the cell that a column gets its values from, told from the
  headers alone.

Principal results: `bindings_autoMap` (looking a matched header up again finds the place where it
was matched), and from it which columns, rows and cells of a grid an import brings.
-/

set_option autoImplicit false

namespace TableSql

/-- A name in lower case without its underscores. -/
def spelling (s : String) : String := withoutUnderscores (Text.lower s)

theorem sameSpelling_eq (column header : String) :
    sameSpelling column header = (spelling header == spelling column) := by
  unfold sameSpelling spelling
  by_cases h : Text.lower header = Text.lower column
  · simp [h]
  · simp [h]

theorem sameSpelling_eq_fun (column : String) :
    sameSpelling column = fun header => spelling header == spelling column :=
  funext fun header => sameSpelling_eq column header

/-- The place of the first header that is spelled like a column. An empty header is no place. -/
def boundIndex? (headers : List String) (column : String) : Option Nat :=
  (headers.findIdx? fun header => spelling header == spelling column).filter fun i =>
    headers[i]? ≠ some ""

/-- The columns that have such a place, each with it. -/
def Table.boundColumns (t : Table) (headers : List String) : List (String × Nat) :=
  t.columns.filterMap fun c => (boundIndex? headers c.name).map fun i => (c.name, i)

/-! ## The header that is found is found again -/

/-- Whatever is found first is found first by its own text, too. -/
theorem findIdx?_of_find? {p : String → Bool} {headers : List String} {header : String}
    (h : headers.find? p = some header) : headers.findIdx? (· == header) = headers.findIdx? p := by
  induction headers with
  | nil => cases h
  | cons a headers ih =>
    by_cases ha : p a = true
    · rw [List.find?_cons_of_pos ha] at h
      obtain rfl : a = header := Option.some.inj h
      simp [List.findIdx?_cons, ha]
    · rw [List.find?_cons_of_neg ha] at h
      have hne : a ≠ header := by
        rintro rfl
        exact ha (List.find?_some h)
      simp [List.findIdx?_cons, ha, hne, ih h]

/-- A column's place is the place of its header, looked up by its text. -/
theorem boundIndex?_eq (headers : List String) (column : String) :
    boundIndex? headers column = (headers.find? (sameSpelling column)).bind fun header =>
      if header = "" then none else headers.findIdx? (· == header) := by
  rw [boundIndex?, ← sameSpelling_eq_fun]
  cases hfound : headers.find? (sameSpelling column) with
  | none =>
    have hidx : headers.findIdx? (sameSpelling column) = none := by
      simpa using List.find?_eq_none.mp hfound
    rw [hidx, Option.filter_none, Option.bind_none]
  | some header =>
    have hlookup := findIdx?_of_find? hfound
    rw [List.find?_eq_bind_findIdx?_getElem?] at hfound
    obtain ⟨i, hi, hget⟩ := Option.bind_eq_some_iff.mp hfound
    by_cases hempty : header = ""
    · simp [hi, hget, hempty]
    · simp [hlookup, hi, hget, hempty]

theorem exists_headerIndex? {s : Sheet} {p : String → Bool} {header : String}
    (h : s.headers.find? p = some header) : ∃ i, s.headerIndex? header = some i := by
  cases hi : s.headerIndex? header with
  | none => exact absurd (List.mem_of_find?_eq_some h) (headerIndex?_eq_none.mp hi)
  | some i => exact ⟨i, rfl⟩

/-! ## Mappings -/

def autoMapping (headers : List String) (column : String) : Mapping where
  column := column
  source := (headers.find? (sameSpelling column)).map .header

/-- Columns of one name have one mapping, so the first active one is any of them. -/
theorem activeMapping?_autoMap {t : Table} {c : Column} (hc : c ∈ t.columns)
    (headers : List String) :
    activeMapping? (t.autoMap headers) c.name =
      if (autoMapping headers c.name).isActive then some (autoMapping headers c.name)
      else none := by
  have hsame {m : Mapping} (hm : m ∈ t.autoMap headers) (hcolumn : m.column = c.name) :
      m = autoMapping headers c.name := by
    obtain ⟨b, -, rfl⟩ := List.mem_map.mp hm
    have hname : b.name = c.name := hcolumn
    rw [hname, autoMapping]
  cases hfound : activeMapping? (t.autoMap headers) c.name with
  | none =>
    have hmem : autoMapping headers c.name ∈ t.autoMap headers := List.mem_map.mpr ⟨c, hc, rfl⟩
    have hactive := List.find?_eq_none.mp hfound _ hmem
    rw [if_neg (by simpa [autoMapping] using hactive)]
  | some m =>
    have hm := List.find?_some hfound
    simp only [Bool.and_eq_true, beq_iff_eq] at hm
    obtain rfl := hsame (List.mem_of_find?_eq_some hfound) hm.1
    rw [if_pos hm.2]

theorem firstActive_autoMap {t : Table} {c : Column} (hc : c ∈ t.columns)
    {headers : List String} {header : String}
    (hfound : headers.find? (sameSpelling c.name) = some header) (hheader : header ≠ "") :
    FirstActive (t.autoMap headers) c.name ⟨c.name, some (.header header)⟩ := by
  have hmapping : autoMapping headers c.name = ⟨c.name, some (.header header)⟩ := by
    rw [autoMapping, hfound, Option.map_some]
  have hactive : (autoMapping headers c.name).isActive = true := by
    rw [hmapping]
    simpa [Mapping.isActive] using hheader
  rw [← activeMapping?_eq_some, activeMapping?_autoMap hc, if_pos hactive, hmapping]

/-- What the first active mapping of a column leads to is the column's place. -/
theorem activeMapping?_bind {t : Table} {c : Column} (hc : c ∈ t.columns) (s : Sheet) :
    ((activeMapping? (t.autoMap s.headers) c.name).bind (·.source)).map s.bind =
      (boundIndex? s.headers c.name).map fun i => .cell (some i) := by
  rw [activeMapping?_autoMap hc, boundIndex?_eq]
  cases hfound : s.headers.find? (sameSpelling c.name) with
  | none => simp [autoMapping, hfound, Mapping.isActive]
  | some header =>
    obtain ⟨i, hi⟩ := exists_headerIndex? hfound
    by_cases hempty : header = ""
    · simp [autoMapping, hfound, Mapping.isActive, hempty]
    · have hplace : s.headers.findIdx? (· == header) = some i := hi
      simp [autoMapping, hfound, Mapping.isActive, hempty, Sheet.bind, hi, hplace]

/-- A bound column's first active mapping names the header at its place, which is the first one with
its text. -/
theorem exists_header_of_bound {t : Table} {c : Column} (hc : c ∈ t.columns) {s : Sheet} {i : Nat}
    (hi : boundIndex? s.headers c.name = some i) :
    ∃ header, FirstActive (t.autoMap s.headers) c.name ⟨c.name, some (.header header)⟩ ∧
      FirstIndex s.headers header i := by
  rw [boundIndex?_eq] at hi
  obtain ⟨header, hfound, hi⟩ := Option.bind_eq_some_iff.mp hi
  by_cases hempty : header = ""
  · simp [hempty] at hi
  · rw [if_neg hempty] at hi
    exact ⟨header, firstActive_autoMap hc hfound hempty, headerIndex?_eq_some.mp hi⟩

/-! ## Sheets of grids -/

/-- The headers of a sheet are the texts of its grid's first row, stripped. -/
theorem Sheet.headers_ofGrid (grid : List (List String)) :
    (ofGrid grid).headers = (grid.headD []).map Text.strip := by
  cases grid with
  | nil => rfl
  | cons headers rows => rfl

/-- The rows of a sheet that have a cell are those of its grid. -/
theorem Sheet.rows_ofGrid (grid : List (List String)) :
    (ofGrid grid).rows.filter (!·.isEmpty) =
      (grid.tail.filter (!·.isEmpty)).map fun row => row.map cellOfText := by
  cases grid with
  | nil => rfl
  | cons headers rows =>
    simp only [ofGrid, List.tail_cons, List.filter_map]
    congr 2
    funext row
    simp

theorem Binding.value?_cellOfText (row : List String) (i : Nat) :
    (cell (some i)).value? (row.map Sheet.cellOfText) = row[i]?.filter (· ≠ "") := by
  cases hcell : row[i]? with
  | none => simp [value?, hcell]
  | some text =>
    by_cases hempty : text = ""
    · simp [value?, hcell, Sheet.cellOfText, hempty, Option.filter_some]
    · simp [value?, hcell, Sheet.cellOfText, hempty, cellText, Option.filter_some]

/-! ## Imports -/

namespace Table

/-- **The bindings of the matched headers lead to the places where they were matched.** -/
theorem bindings_autoMap (t : Table) (s : Sheet) :
    t.bindings (t.autoMap s.headers) s =
      (t.boundColumns s.headers).map fun (name, i) => (name, .cell (some i)) := by
  rw [bindings, boundColumns, List.map_filterMap]
  refine List.filterMap_congr ?_
  intro c hc
  have hbind := congrArg (Option.map fun b => (c.name, b)) (activeMapping?_bind hc s)
  rw [Option.map_map, Option.map_map] at hbind
  rw [Option.map_map]
  exact hbind

theorem bindings_autoMap_ofGrid (t : Table) (grid : List (List String)) :
    t.bindings (t.autoMap ((grid.headD []).map Text.strip)) (Sheet.ofGrid grid) =
      (t.boundColumns ((grid.headD []).map Text.strip)).map fun (name, i) =>
        (name, .cell (some i)) := by
  rw [← Sheet.headers_ofGrid, bindings_autoMap]

/-- What an automatic import brings, told from the grid alone. -/
theorem insert_autoMap (t : Table) (grid : List (List String)) :
    t.insert (t.autoMap ((grid.headD []).map Text.strip)) (Sheet.ofGrid grid) =
      let bound := t.boundColumns ((grid.headD []).map Text.strip)
      { table := t.name
        columns := bound.map (·.1)
        tuples := (grid.tail.filter (!·.isEmpty)).map fun row =>
          bound.map fun (_, i) => row[i]?.filter (· ≠ "") } := by
  simp only [insert, bindings_autoMap_ofGrid, Sheet.rows_ofGrid, List.map_map, Function.comp_def,
    Binding.value?_cellOfText]

/-- **An automatic import reads the right cells.** The headers of a grid's sheet are the texts of its
first row, stripped. A column is bound to the first header that is spelled like it, unless that
header is empty, and looking this header up in the sheet leads to the same place. -/
theorem importStatement_autoMap (t : Table) (grid : List (List String)) (d : Dialect) :
    let s := Sheet.ofGrid grid
    let headers := (grid.headD []).map Text.strip
    let mappings := t.autoMap headers
    let bound := t.boundColumns headers
    let rows := grid.tail.filter (!·.isEmpty)
    s.headers = headers ∧
    (if bound = [] then t.importStatement d mappings s = "-- No mappings configured"
      else if rows = [] then
        t.importStatement d mappings s = "-- Import to " ++ t.name ++ "\n" ++ "-- No data found"
      else
        ∃ body, t.importStatement d mappings s = "-- Import to " ++ t.name ++ "\n" ++ body ∧
          Insert.IsReadFrom d body
            { table := t.name
              columns := bound.map (·.1)
              tuples := rows.map fun row => bound.map fun (_, i) => row[i]?.filter (· ≠ "") }) ∧
      ∀ c ∈ t.columns, ∀ i, boundIndex? headers c.name = some i →
        ∃ header, FirstActive mappings c.name ⟨c.name, some (.header header)⟩ ∧
          FirstIndex headers header i ∧ s.headerIndex? header = some i := by
  intro s headers mappings bound rows
  have hheaders : s.headers = headers := Sheet.headers_ofGrid grid
  have hbindings : t.bindings mappings s = bound.map fun (name, i) => (name, .cell (some i)) :=
    t.bindings_autoMap_ofGrid grid
  have hrows : s.rows.filter (!·.isEmpty) = rows.map fun row => row.map Sheet.cellOfText :=
    Sheet.rows_ofGrid grid
  refine ⟨hheaders, ?_, ?_⟩
  · have hcases := t.importStatement_cases mappings s d
    rw [t.insert_autoMap grid] at hcases
    simpa only [hbindings, hrows, List.map_eq_nil_iff] using hcases
  · intro c hc i hi
    rw [← hheaders] at hi
    obtain ⟨header, hactive, hfirst⟩ := exists_header_of_bound hc hi
    have hplace : s.headerIndex? header = some i := headerIndex?_eq_some.mpr hfirst
    rw [hheaders] at hactive hfirst
    exact ⟨header, hactive, hfirst, hplace⟩

/-- A grid whose headers are padded, empty and repeated in other spellings, and whose rows are
shorter than the headers. The column with an empty spelling is not bound, because the first header
of this spelling is the empty one. -/
theorem importStatement_autoMap_ragged :
    let t : Table :=
      { name := "users"
        columns := [{ name := "userid", typeName := "int" }, { name := "_", typeName := "int" },
          { name := "Name", typeName := "text" }, { name := "name_", typeName := "text" }] }
    let grid : List (List String) :=
      [[" User_ID ", "", "_", "NAME", "name"], [], ["7", "x", "y", "'; --", "z"], [" 8 "],
        ["9", "x", "y", "", "z"]]
    let headers := ["User_ID", "", "_", "NAME", "name"]
    let body := "INSERT INTO `users` (`userid`, `Name`, `name_`) VALUES\n" ++
      "('7', '''; --', '''; --'),\n(' 8 ', NULL, NULL),\n('9', NULL, NULL);"
    (Sheet.ofGrid grid).headers = headers ∧
      t.importStatement .mysql (t.autoMap headers) (Sheet.ofGrid grid) =
        "-- Import to users\n" ++ body ∧
      Insert.IsReadFrom .mysql body
        { table := "users"
          columns := ["userid", "Name", "name_"]
          tuples := [[some "7", some "'; --", some "'; --"], [some " 8 ", none, none],
            [some "9", none, none]] } ∧
      FirstActive (t.autoMap headers) "Name" ⟨"Name", some (.header "NAME")⟩ ∧
      (Sheet.ofGrid grid).headerIndex? "NAME" = some 3 := by
  intro t grid headers body
  have hheaders : (grid.headD []).map Text.strip = headers := by decide +kernel
  have hbound : t.boundColumns headers = [("userid", 0), ("Name", 3), ("name_", 3)] := by
    decide +kernel
  have hplace : boundIndex? headers "Name" = some 3 := by decide +kernel
  have htext : t.importStatement .mysql (t.autoMap headers) (Sheet.ofGrid grid) =
      "-- Import to users\n" ++ body := by decide +kernel
  have himport := t.importStatement_autoMap grid .mysql
  simp only [hheaders, hbound, reduceCtorEq, if_false] at himport
  rw [if_neg (by decide)] at himport
  obtain ⟨hsheet, ⟨body', hbody, hread⟩, hlookup⟩ := himport
  obtain rfl : body' = body := (String.append_right_inj _).1 (hbody.symm.trans htext)
  obtain ⟨header, hactive, hfirst, hheader⟩ := hlookup t.columns[2] (by simp [t]) 3 hplace
  obtain rfl : "NAME" = header := Option.some.inj hfirst.1
  exact ⟨hsheet, htext, hread, hactive, hheader⟩

end Table

end TableSql
