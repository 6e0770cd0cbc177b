import Mathlib.Data.List.Nodup
import TableSql.Proofs.Import.AutoMap

/-!
# Sheets whose headers are the names of the columns

* `Table.ownMappings` — each column gets its values from the header with its own name.

Principal results: `forall_find?_spelling_iff` (whether every header is the first one with its
spelling), `autoMap_eq_ownMappings_iff` (whether the matching of headers leads each column to its
own header), and what an import of such a sheet brings.
-/

set_option autoImplicit false

namespace TableSql

/-- Each column gets its values from the header with its own name. -/
def Table.ownMappings (t : Table) : List Mapping :=
  t.columns.map fun c => { column := c.name, source := some (.header c.name) }

/-! ## Spellings that are all different -/

section Headers

variable {headers : List String}

theorem exists_find?_spelling {header : String} (h : header ∈ headers) :
    ∃ first, headers.find? (fun other => spelling other == spelling header) = some first := by
  rw [← Option.isSome_iff_exists, List.find?_isSome]
  exact ⟨header, h, beq_self_eq_true _⟩

/-- **Each of some different headers is the first one with its spelling, exactly if no two of them
have the same spelling.** -/
theorem forall_find?_spelling_iff (h : headers.Nodup) :
    (∀ header ∈ headers,
      headers.find? (fun other => spelling other == spelling header) = some header) ↔
        (headers.map spelling).Nodup := by
  rw [List.nodup_map_iff_inj_on h]
  constructor
  · intro hfirst a ha b hb hab
    have hfound := hfirst a ha
    rw [hab, hfirst b hb] at hfound
    exact (Option.some.inj hfound).symm
  · intro hinj header hheader
    obtain ⟨first, hfirst⟩ := exists_find?_spelling hheader
    have hsame : spelling first = spelling header := by simpa using List.find?_some hfirst
    rw [hfirst, hinj first (List.mem_of_find?_eq_some hfirst) header hheader hsame]

end Headers

namespace Table

variable {t : Table} {headers : List String}

theorem autoMap_eq (t : Table) (headers : List String) :
    t.autoMap headers = t.columns.map fun c =>
      { column := c.name
        source := (headers.find? fun other => spelling other == spelling c.name).map .header } := by
  unfold autoMap
  simp only [sameSpelling_eq_fun]

/-- Each column gets its own header exactly if this is the first one with the column's spelling. -/
theorem autoMap_eq_ownMappings_iff_forall :
    t.autoMap headers = t.ownMappings ↔ ∀ name ∈ t.columnNames,
      headers.find? (fun other => spelling other == spelling name) = some name := by
  rw [autoMap_eq, ownMappings, List.map_inj_left, columnNames, List.forall_mem_map]
  refine forall₂_congr fun c _ => ?_
  rw [Mapping.mk.injEq, Option.map_eq_some_iff]
  simp

/-- **The matching of headers leads each column to its own header, exactly if no two names of
columns have the same spelling.** -/
theorem autoMap_eq_ownMappings_iff (hheaders : headers.Perm t.columnNames)
    (hdistinct : t.columnNames.Nodup) :
    t.autoMap headers = t.ownMappings ↔ (t.columnNames.map spelling).Nodup := by
  rw [autoMap_eq_ownMappings_iff_forall, ← (hheaders.map spelling).nodup_iff,
    ← forall_find?_spelling_iff (hheaders.nodup_iff.2 hdistinct)]
  exact forall_congr' fun name => by rw [hheaders.mem_iff]

theorem bindings_names_of_mapped {mappings : List Mapping}
    (h : ∀ c ∈ t.columns, ∃ m, FirstActive mappings c.name m) (s : Sheet) :
    (t.bindings mappings s).map (·.1) = t.columnNames := by
  have hall : t.columns.filter (fun c => isMapped mappings c.name) = t.columns := by
    rw [List.filter_eq_self]
    intro c hc
    obtain ⟨m, hm⟩ := h c hc
    rw [isMapped_eq, activeMapping?_eq_some.2 hm, Option.isSome_some]
  rw [bindings_names, hall, columnNames]

theorem importStatement_of_mapped {mappings : List Mapping} (t : Table) (s : Sheet) (d : Dialect)
    (hmapped : ∀ c ∈ t.columns, ∃ m, FirstActive mappings c.name m) (hcolumns : t.columns ≠ [])
    (hrows : s.rows.filter (!·.isEmpty) ≠ []) :
    ∃ body i, t.importStatement d mappings s = "-- Import to " ++ t.name ++ "\n" ++ body ∧
      Insert.IsReadFrom d body i ∧ i.table = t.name ∧ i.columns = t.columnNames ∧
      List.Forall₂ (fun row values => List.Forall₂ (Imports mappings s row) i.columns values)
        (s.rows.filter (!·.isEmpty)) i.tuples := by
  have hnames := bindings_names_of_mapped hmapped s
  have hbindings : t.bindings mappings s ≠ [] := by
    intro hnil
    rw [hnil, List.map_nil, eq_comm, columnNames, List.map_eq_nil_iff] at hnames
    exact hcolumns hnames
  rw [← hnames]
  exact t.exists_insert_imports d hbindings hrows

/-- **A sheet with the names of the columns for headers loses no column. Each column gets the values
below its own header exactly if no two names have the same spelling**, that is, if they differ in
more than letter case and underscores; otherwise it gets those below the first header that is
spelled like its name. -/
theorem autoMap_own_headers (t : Table) (s : Sheet) (hnames : ∀ c ∈ t.columns, c.name ≠ "")
    (hdistinct : (t.columnNames.map Text.lower).Nodup) (hheaders : s.headers.Perm t.columnNames) :
    (∀ c ∈ t.columns, ∃ header,
      s.headers.find? (fun other => spelling other == spelling c.name) = some header ∧
        FirstActive (t.autoMap s.headers) c.name
          { column := c.name, source := some (.header header) }) ∧
    (t.autoMap s.headers = t.ownMappings ↔ (t.columnNames.map spelling).Nodup) ∧
    ((t.columnNames.map spelling).Nodup → t.columns ≠ [] → s.rows.filter (!·.isEmpty) ≠ [] →
      ∀ d, ∃ body i,
        t.importStatement d (t.autoMap s.headers) s = "-- Import to " ++ t.name ++ "\n" ++ body ∧
        Insert.IsReadFrom d body i ∧ i.table = t.name ∧ i.columns = t.columnNames ∧
        List.Forall₂ (fun row values => List.Forall₂ (Imports t.ownMappings s row) i.columns values)
          (s.rows.filter (!·.isEmpty)) i.tuples) := by
  have hown := autoMap_eq_ownMappings_iff hheaders (.of_map _ hdistinct)
  have hmapped : ∀ c ∈ t.columns, ∃ header,
      s.headers.find? (fun other => spelling other == spelling c.name) = some header ∧
        FirstActive (t.autoMap s.headers) c.name
          { column := c.name, source := some (.header header) } := by
    intro c hc
    have hheader : c.name ∈ s.headers := hheaders.mem_iff.2 (List.mem_map_of_mem hc)
    obtain ⟨header, hfirst⟩ := exists_find?_spelling hheader
    -- the header is the name of a column itself, so it is not empty
    obtain ⟨b, hb, rfl⟩ := List.mem_map.1 (hheaders.mem_iff.1 (List.mem_of_find?_eq_some hfirst))
    rw [← sameSpelling_eq_fun] at hfirst ⊢
    exact ⟨b.name, hfirst, firstActive_autoMap hc hfirst (hnames b hb)⟩
  refine ⟨hmapped, hown, fun hspelling hcolumns hrows d => ?_⟩
  rw [← hown.2 hspelling]
  refine t.importStatement_of_mapped s d (fun c hc => ?_) hcolumns hrows
  obtain ⟨header, -, hactive⟩ := hmapped c hc
  exact ⟨_, hactive⟩

/-- Headers in another order than the columns, and a row that is too short. -/
theorem autoMap_own_headers_people :
    let t : Table :=
      { name := "people"
        columns := [
          { name := "First_Name", typeName := "text" },
          { name := "_", typeName := "int" },
          { name := "name", typeName := "text" }] }
    let s : Sheet :=
      { headers := ["name", "First_Name", "_"]
        rows := [[.string "Li", .string "Bo", .number (.whole 1)], [], [.string "Om"]] }
    ((∀ c ∈ t.columns, c.name ≠ "") ∧ (t.columnNames.map Text.lower).Nodup ∧
      s.headers.Perm t.columnNames) ∧
    (t.columnNames.map spelling).Nodup ∧ t.autoMap s.headers = t.ownMappings ∧
    ∃ body i, t.importStatement .oracle (t.autoMap s.headers) s =
        "-- Import to " ++ t.name ++ "\n" ++ body ∧
      Insert.IsReadFrom .oracle body i ∧ i.table = t.name ∧ i.columns = t.columnNames ∧
      List.Forall₂ (fun row values => List.Forall₂ (Imports t.ownMappings s row) i.columns values)
        (s.rows.filter (!·.isEmpty)) i.tuples := by
  intro t s
  have hnames : ∀ c ∈ t.columns, c.name ≠ "" := by decide
  have hdistinct : (t.columnNames.map Text.lower).Nodup := by decide +kernel
  have hheaders : s.headers.Perm t.columnNames := by decide
  have hspelling : (t.columnNames.map spelling).Nodup := by decide +kernel
  have hrows : s.rows.filter (!·.isEmpty) ≠ [] := List.cons_ne_nil _ _
  obtain ⟨-, hown, himport⟩ := t.autoMap_own_headers s hnames hdistinct hheaders
  exact ⟨⟨hnames, hdistinct, hheaders⟩, hspelling, hown.2 hspelling,
    himport hspelling (List.cons_ne_nil _ _) hrows .oracle⟩

/-- Names that differ in an underscore only: the first header serves both columns. -/
theorem autoMap_shares_header :
    let t : Table :=
      { name := "t"
        columns := [{ name := "ab", typeName := "text" }, { name := "a_b", typeName := "text" }] }
    let s : Sheet := { headers := ["ab", "a_b"], rows := [[.string "x", .string "y"]] }
    ((∀ c ∈ t.columns, c.name ≠ "") ∧ (t.columnNames.map Text.lower).Nodup ∧
      s.headers.Perm t.columnNames) ∧
    ¬ t.autoMap s.headers = t.ownMappings ∧
    t.autoMap s.headers = [{ column := "ab", source := some (.header "ab") },
      { column := "a_b", source := some (.header "ab") }] ∧
    t.importStatement .mysql (t.autoMap s.headers) s =
      "-- Import to t\nINSERT INTO \x60t\x60 (\x60ab\x60, \x60a_b\x60) VALUES\n('x', 'x');" := by
  decide +kernel

end Table

end TableSql
