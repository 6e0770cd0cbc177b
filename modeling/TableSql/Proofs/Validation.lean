import Mathlib.Data.List.Nodup
import TableSql.Validation

/-!
# What a check finds

* `Table.Passed` — what holds of a table that a check finds nothing in.

Principal results: `checkNames_eq_empty_iff` (the names of the columns are there, and no two are the
same), `Table.defects_check_eq_nil_iff` (what makes a table unfit) and `Table.check_eq_empty_iff`.
-/

set_option autoImplicit false

namespace TableSql

namespace Report

theorem append_eq_empty_iff {a b : Report} : a ++ b = {} ↔ a = {} ∧ b = {} := by
  obtain ⟨defects, warnings⟩ := a
  obtain ⟨defects', warnings'⟩ := b
  change Report.mk (defects ++ defects') (warnings ++ warnings') = {} ↔ _
  simp only [mk.injEq, List.append_eq_nil_iff]
  tauto

@[simp] theorem defects_append (a b : Report) : (a ++ b).defects = a.defects ++ b.defects := rfl

theorem ofDefect_ne_empty (d : Defect) : ofDefect d ≠ {} := by
  intro h
  cases h

theorem ofWarning_ne_empty (w : Warning) : ofWarning w ≠ {} := by
  intro h
  cases h

theorem if_eq_empty_iff {p : Prop} [Decidable p] {a : Report} (ha : a ≠ {}) :
    (if p then a else {}) = {} ↔ ¬ p := by
  split
  · rename_i hp
    simp [ha, hp]
  · rename_i hp
    simp [hp]

end Report

open Report

/-- **Nothing is found about columns with names that are no blanks, all different, and different from
those before.** -/
theorem checkNames_eq_empty_iff {columns : List Column} {before : List String} {position : Nat} :
    checkNames before position columns = {} ↔
      (∀ c ∈ columns, Text.isBlankText c.name = false ∧ c.name ∉ before) ∧
        (columns.map (·.name)).Nodup := by
  induction columns generalizing before position with
  | nil => simp [checkNames]
  | cons c cs ih =>
    rw [checkNames]
    by_cases hblank : Text.isBlankText c.name = true
    · rw [if_pos hblank, append_eq_empty_iff]
      simp [ofDefect_ne_empty, hblank]
    · rw [if_neg hblank, append_eq_empty_iff, if_eq_empty_iff (ofWarning_ne_empty _), ih]
      rw [Bool.not_eq_true] at hblank
      simp only [List.contains_iff_mem, List.mem_cons, not_or, List.map_cons, List.nodup_cons,
        List.mem_map, forall_eq_or_imp, hblank]
      -- the name is new to those behind it: said once for the columns, once for their names
      grind

/-- **The only defects of columns are blank names.** -/
theorem defects_checkNames_eq_nil_iff {columns : List Column} {before : List String}
    {position : Nat} :
    (checkNames before position columns).defects = [] ↔
      ∀ c ∈ columns, Text.isBlankText c.name = false := by
  induction columns generalizing before position with
  | nil => simp [checkNames]
  | cons c cs ih =>
    rw [checkNames, List.forall_mem_cons]
    by_cases hblank : Text.isBlankText c.name = true
    · rw [if_pos hblank, defects_append]
      simp [ofDefect, hblank]
    · rw [if_neg hblank, defects_append, List.append_eq_nil_iff, ih]
      rw [Bool.not_eq_true] at hblank
      have hhere : (if before.contains c.name then
          ofWarning ⟨.duplicate, "Duplicate column name", some c.name⟩ else {}).defects = [] := by
        split <;> rfl
      simp only [hhere, hblank, true_and]

namespace Table

/-- **A table has no defects if it has columns, and it and all its columns have names that are no
blanks; whatever the dialect.** -/
theorem defects_check_eq_nil_iff {d : Dialect} {t : Table} :
    (t.check d).defects = [] ↔ Text.isBlankText t.name = false ∧ t.columns ≠ [] ∧
      ∀ c ∈ t.columns, Text.isBlankText c.name = false := by
  have hname : (if Text.isBlankText t.name then
      ofDefect (.blankName "table name is empty") else {}).defects = [] ↔
        Text.isBlankText t.name = false := by
    cases Text.isBlankText t.name <;> simp [ofDefect]
  rw [check, defects_append, List.append_eq_nil_iff, hname]
  by_cases hcolumns : t.columns = []
  · simp [hcolumns, ofDefect]
  · rw [List.isEmpty_eq_false_iff.2 hcolumns, if_neg Bool.false_ne_true, defects_append,
      List.append_nil, defects_checkNames_eq_nil_iff]
    simp [hcolumns]

theorem check_of_noColumns {t : Table} (d : Dialect) (hname : Text.isBlankText t.name = false)
    (h : t.columns = []) : t.check d = ofDefect (.refused (.noColumns t.name)) := by
  simp only [check, hname, h]
  rfl

/-- A table that a check finds nothing in. -/
structure Passed (d : Dialect) (t : Table) : Prop where
  name : Text.isBlankText t.name = false
  columns : t.columns ≠ []
  columnNames : ∀ c ∈ t.columns, Text.isBlankText c.name = false
  distinct : t.columnNames.Nodup
  dialect : t.dialectWarnings d = []

/-- **A check finds nothing in a table if and only if there is nothing to find.** -/
theorem check_eq_empty_iff {d : Dialect} {t : Table} : t.check d = {} ↔ t.Passed d := by
  rw [check, append_eq_empty_iff, if_eq_empty_iff (ofDefect_ne_empty _), Bool.not_eq_true]
  by_cases hcolumns : t.columns = []
  · simp only [hcolumns, List.isEmpty_nil, if_true, ofDefect_ne_empty, and_false, false_iff]
    exact fun h => h.columns hcolumns
  · have hne : t.columns.isEmpty = false := List.isEmpty_eq_false_iff.2 hcolumns
    have hdialect : ({ warnings := t.dialectWarnings d } : Report) = {} ↔
        t.dialectWarnings d = [] := by simp
    rw [hne, if_neg Bool.false_ne_true, append_eq_empty_iff, checkNames_eq_empty_iff, hdialect]
    constructor
    · rintro ⟨hname, ⟨hnames, hdistinct⟩, hwarnings⟩
      exact ⟨hname, hcolumns, fun c hc => (hnames c hc).1, hdistinct, hwarnings⟩
    · intro h
      exact ⟨h.name, ⟨fun c hc => ⟨h.columnNames c hc, List.not_mem_nil⟩, h.distinct⟩, h.dialect⟩

/-- A Doris table that passes has one column for the key. -/
theorem Passed.existsUnique_keyColumn {t : Table} (h : t.Passed .doris) :
    ∃! c, c ∈ t.columns ∧ c.name = dorisKeyColumn := by
  have hfound : (t.column? dorisKeyColumn).isNone = false := by
    have hwarnings := h.dialect
    unfold dialectWarnings at hwarnings
    simp only at hwarnings
    split at hwarnings
    · cases hwarnings
    · rename_i hsome
      rwa [Bool.not_eq_true] at hsome
  rw [Option.isNone_eq_false_iff, Option.isSome_iff_exists] at hfound
  obtain ⟨c, hc⟩ := hfound
  have hmem := List.mem_of_find?_eq_some hc
  have hkey : c.name = dorisKeyColumn := by simpa using List.find?_some hc
  refine ⟨c, ⟨hmem, hkey⟩, ?_⟩
  rintro b ⟨hb, hname⟩
  exact List.inj_on_of_nodup_map h.distinct hb hmem (hname.trans hkey.symm)

/-- A MySQL table that passes has at most one column in its primary key. -/
theorem Passed.length_keyColumns_le_one {t : Table} (h : t.Passed .mysql) :
    t.keyColumns.length ≤ 1 := by
  have hwarnings := h.dialect
  unfold dialectWarnings at hwarnings
  simp only at hwarnings
  split at hwarnings
  · cases hwarnings
  · rename_i hle
    exact Nat.not_lt.1 hle

end Table

end TableSql
