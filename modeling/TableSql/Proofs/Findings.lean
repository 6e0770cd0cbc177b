import Mathlib.Data.Finset.Card
import Mathlib.Data.List.Dedup
import TableSql.Proofs.Validation

/-!
# The report of a check, finding by finding

A check goes through the columns once, with the names that it has met. What it reports is given here
by places in the list of columns, without a list of names that grows.

* `Table.nameDefects` — the defect of a table without a name.
* `Table.unnamedPlaces` — the numbers of the columns without a name.
* `Table.givenNames` — the names that columns have.
* `Table.repeatedNames` — the names that an earlier column has, too.

Principal results: `defects_check` and `warnings_check` (a report as lists of these), and
`length_repeatedNames_add_card` (how many names are repeated).
-/

set_option autoImplicit false

namespace TableSql

open Report

/-- The defect of a column without a name. -/
def Defect.unnamed (number : Nat) : Defect := .blankName s!"column #{number} has no name"

/-- The doubt about a name that an earlier column has. -/
def Warning.repeated (name : String) : Warning :=
  ⟨.duplicate, "Duplicate column name", some name⟩

/-- The doubts about names, among all doubts. -/
def Report.duplicates (r : Report) : List Warning := r.warnings.filter (·.kind = .duplicate)

@[simp] theorem Report.warnings_append (a b : Report) :
    (a ++ b).warnings = a.warnings ++ b.warnings := rfl

/-! ## Columns -/

/-- The numbers of columns without a name, given the number of the first one. -/
def unnamedFrom (first : Nat) (columns : List Column) : List Nat :=
  ((columns.zipIdx first).filter fun (c, _) => Text.isBlankText c.name).map Prod.snd

def namesOf (columns : List Column) : List String :=
  (columns.map (·.name)).filter (!Text.isBlankText ·)

/-- The names of columns that a column of the list before them has, too; `earlier` is the part of
the list in front of these columns. -/
def repeatedAfter (earlier columns : List Column) : List String :=
  ((columns.zipIdx earlier.length).filter fun (c, place) =>
    !Text.isBlankText c.name &&
      (((earlier ++ columns).take place).map (·.name)).contains c.name).map (·.1.name)

theorem unnamedFrom_cons (first : Nat) (c : Column) (columns : List Column) :
    unnamedFrom first (c :: columns) =
      (if Text.isBlankText c.name then [first] else []) ++ unnamedFrom (first + 1) columns := by
  unfold unnamedFrom
  rw [List.zipIdx_cons]
  split
  · rename_i h
    rw [List.filter_cons_of_pos]
    · rfl
    · exact h
  · rename_i h
    rw [List.filter_cons_of_neg]
    · rfl
    · exact h

/-- **The defects of columns are the missing names, each with the number of its column.** -/
theorem defects_checkNames (columns : List Column) (before : List String) (first : Nat) :
    (checkNames before first columns).defects = (unnamedFrom first columns).map .unnamed := by
  induction columns generalizing before first with
  | nil => rfl
  | cons c cs ih =>
    rw [checkNames, unnamedFrom_cons, List.map_append]
    split
    · rw [defects_append, ih]
      rfl
    · rw [defects_append, ih]
      split <;> rfl

theorem repeatedAfter_cons (earlier columns : List Column) (c : Column) :
    repeatedAfter earlier (c :: columns) =
      (if Text.isBlankText c.name = false ∧ c.name ∈ earlier.map (·.name) then [c.name] else []) ++
        repeatedAfter (earlier ++ [c]) columns := by
  unfold repeatedAfter
  rw [List.zipIdx_cons, List.length_append, List.length_singleton, List.append_assoc,
    List.singleton_append]
  split
  · rename_i h
    rw [List.filter_cons_of_pos]
    · rfl
    · simpa using h
  · rename_i h
    rw [List.filter_cons_of_neg]
    · rfl
    · simpa using h

/-- **The doubts about columns are the repeated names,** if the names met before are those of the
columns in front. -/
theorem warnings_checkNames {columns earlier : List Column} {before : List String} {first : Nat}
    (hbefore : ∀ name, Text.isBlankText name = false →
      (name ∈ before ↔ name ∈ earlier.map (·.name))) :
    (checkNames before first columns).warnings =
      (repeatedAfter earlier columns).map .repeated := by
  -- a column goes from the list behind to the list in front; `hnext` keeps what is met in step
  induction columns generalizing before earlier first with
  | nil => rfl
  | cons c cs ih =>
    rw [checkNames, repeatedAfter_cons, List.map_append]
    by_cases hblank : Text.isBlankText c.name = true
    · have hnext : ∀ name, Text.isBlankText name = false →
          (name ∈ before ↔ name ∈ (earlier ++ [c]).map (·.name)) := by
        intro name hname
        have hne : name ≠ c.name := by
          rintro rfl
          rw [hblank] at hname
          cases hname
        simp [hbefore name hname, hne]
      rw [if_pos hblank, warnings_append, ih hnext]
      simp [hblank, ofDefect]
    · rw [Bool.not_eq_true] at hblank
      have hnext : ∀ name, Text.isBlankText name = false →
          (name ∈ c.name :: before ↔ name ∈ (earlier ++ [c]).map (·.name)) := by
        intro name hname
        simp [hbefore name hname, or_comm]
      have hmet := hbefore c.name hblank
      simp only [hblank, Bool.false_eq_true, if_false, warnings_append, ih hnext,
        List.contains_iff_mem, hmet, true_and]
      split <;> rfl

theorem warnings_checkNames_nil (first : Nat) (columns : List Column) :
    (checkNames [] first columns).warnings = (repeatedAfter [] columns).map .repeated :=
  warnings_checkNames fun _ _ => by simp

/-- **With each name that columns have, either a new name is met or a doubt is reported.** -/
theorem length_warnings_checkNames (columns : List Column) (before : List String) (first : Nat) :
    (checkNames before first columns).warnings.length +
        (before.toFinset ∪ (namesOf columns).toFinset).card =
      before.toFinset.card + (namesOf columns).length := by
  unfold namesOf
  induction columns generalizing before first with
  | nil => simp [checkNames]
  | cons c cs ih =>
    rw [checkNames, List.map_cons]
    by_cases hblank : Text.isBlankText c.name = true
    · rw [if_pos hblank, warnings_append, List.filter_cons_of_neg (by simp [hblank])]
      simpa [ofDefect] using ih before (first + 1)
    · have hrest := ih (c.name :: before) (first + 1)
      rw [List.toFinset_cons, Finset.insert_union] at hrest
      rw [if_neg hblank, warnings_append, List.filter_cons_of_pos (by simp [hblank]),
        List.toFinset_cons, Finset.union_insert, List.length_append, List.length_cons]
      -- a name met before adds a doubt and no name, a new one adds a name and no doubt
      by_cases hmet : c.name ∈ before
      · have hsame : insert c.name before.toFinset = before.toFinset :=
          Finset.insert_eq_of_mem (List.mem_toFinset.2 hmet)
        rw [hsame] at hrest
        rw [if_pos (List.contains_iff_mem.2 hmet)]
        simp only [ofWarning, List.length_singleton]
        omega
      · have hnew : (insert c.name before.toFinset).card = before.toFinset.card + 1 :=
          Finset.card_insert_of_notMem (by simpa using hmet)
        rw [hnew] at hrest
        rw [if_neg (by simpa using hmet)]
        simp only [List.length_nil]
        omega

namespace Table

variable {d : Dialect} {t : Table}

/-! ## Tables -/

/-- The defect of a table whose name is blank. -/
def nameDefects (t : Table) : List Defect :=
  if Text.isBlankText t.name then [.blankName "table name is empty"] else []

/-- The numbers of the columns whose names are blank; the first column is number one. -/
def unnamedPlaces (t : Table) : List Nat := unnamedFrom 1 t.columns

/-- The names of the columns in their order, without the blank ones. -/
def givenNames (t : Table) : List String := namesOf t.columns

/-- The names that an earlier column has, too, once for each column that comes later. -/
def repeatedNames (t : Table) : List String := repeatedAfter [] t.columns

/-- **The defects of a table:** its own name, and then the missing columns or those without a
name. -/
theorem defects_check (d : Dialect) (t : Table) :
    (t.check d).defects = t.nameDefects ++
      if t.columns = [] then [.refused (.noColumns t.name)]
      else t.unnamedPlaces.map .unnamed := by
  have hname : (if Text.isBlankText t.name then
      ofDefect (.blankName "table name is empty") else {}).defects = t.nameDefects := by
    unfold nameDefects
    split <;> rfl
  rw [check, defects_append, hname]
  congr 1
  by_cases hcolumns : t.columns = []
  · rw [if_pos hcolumns, hcolumns]
    rfl
  · rw [if_neg hcolumns, List.isEmpty_eq_false_iff.2 hcolumns, if_neg Bool.false_ne_true,
      defects_append, defects_checkNames, List.append_nil, unnamedPlaces]

/-- **The doubts about a table:** the repeated names, and then what a dialect objects to. -/
theorem warnings_check (d : Dialect) (t : Table) :
    (t.check d).warnings =
      if t.columns = [] then []
      else t.repeatedNames.map .repeated ++ t.dialectWarnings d := by
  have hname : (if Text.isBlankText t.name then
      ofDefect (.blankName "table name is empty") else {}).warnings = [] := by
    split <;> rfl
  rw [check, warnings_append, hname, List.nil_append]
  by_cases hcolumns : t.columns = []
  · rw [if_pos hcolumns, hcolumns]
    rfl
  · rw [if_neg hcolumns, List.isEmpty_eq_false_iff.2 hcolumns, if_neg Bool.false_ne_true,
      warnings_append, warnings_checkNames_nil, repeatedNames]

theorem kind_of_mem_dialectWarnings {w : Warning} (h : w ∈ t.dialectWarnings d) :
    w.kind = .dialectSpecific := by
  unfold dialectWarnings at h
  split at h
  case h_1 | h_2 =>
    split at h
    · rw [List.mem_singleton] at h
      rw [h]
    · cases h
  all_goals cases h

theorem duplicates_check (h : t.columns ≠ []) :
    (t.check d).duplicates = t.repeatedNames.map .repeated := by
  unfold Report.duplicates
  rw [warnings_check, if_neg h, List.filter_append, List.filter_eq_self.2, List.filter_eq_nil_iff.2,
    List.append_nil]
  · intro w hw
    simp [kind_of_mem_dialectWarnings hw]
  · intro w hw
    obtain ⟨name, -, rfl⟩ := List.mem_map.1 hw
    rfl

/-- **Each column with a name has a new one or a repeated one.** -/
theorem length_repeatedNames_add_card (t : Table) :
    t.repeatedNames.length + t.givenNames.toFinset.card = t.givenNames.length := by
  have hcount := length_warnings_checkNames t.columns [] 1
  rw [warnings_checkNames_nil] at hcount
  simpa [repeatedNames, givenNames] using hcount

theorem repeatedNames_eq_nil_iff (t : Table) : t.repeatedNames = [] ↔ t.givenNames.Nodup := by
  have hcount := t.length_repeatedNames_add_card
  rw [← List.length_eq_zero_iff]
  constructor
  · intro hzero
    rw [hzero, Nat.zero_add] at hcount
    exact Multiset.toFinset_card_eq_card_iff_nodup.1 hcount
  · intro hnodup
    rw [List.toFinset_card_of_nodup hnodup] at hcount
    omega

/-- **A check finds just what there is to find.** A table is valid if it and all its columns have
names and there are columns. Of a table with columns it reports the missing name of the table, the
columns without a name by their numbers, and a doubt for each name that an earlier column has; of a
table without columns that there are none. -/
theorem check_finds (d : Dialect) (t : Table) :
    ((t.check d).isValid = true ↔ Text.isBlankText t.name = false ∧ t.columns ≠ [] ∧
      ∀ c ∈ t.columns, Text.isBlankText c.name = false) ∧
    (t.columns ≠ [] →
      (t.check d).defects = t.nameDefects ++ t.unnamedPlaces.map .unnamed ∧
      (t.check d).duplicates = t.repeatedNames.map .repeated ∧
      (t.check d).duplicates.length = t.givenNames.length - t.givenNames.toFinset.card ∧
      ((t.check d).duplicates = [] ↔ t.givenNames.Nodup)) ∧
    (t.columns = [] →
      (t.check d).defects = t.nameDefects ++ [.refused (.noColumns t.name)] ∧
      (t.check d).warnings = []) := by
  refine ⟨?valid, ?columns, ?noColumns⟩
  case valid =>
    rw [isValid, List.isEmpty_iff]
    exact defects_check_eq_nil_iff
  case columns =>
    intro h
    have hdefects := defects_check d t
    rw [if_neg h] at hdefects
    have hcount := t.length_repeatedNames_add_card
    refine ⟨hdefects, duplicates_check h, ?_, ?_⟩
    · rw [duplicates_check h, List.length_map]
      omega
    · rw [duplicates_check h, List.map_eq_nil_iff]
      exact t.repeatedNames_eq_nil_iff
  case noColumns =>
    intro h
    have hdefects := defects_check d t
    have hwarnings := warnings_check d t
    rw [if_pos h] at hdefects hwarnings
    exact ⟨hdefects, hwarnings⟩

/-- A table with blank names and with names that come more than once. -/
theorem check_finds_members :
    let t : Table :=
      { name := "\t"
        columns := [
          { name := "id", typeName := "int" }, { name := " ", typeName := "int" },
          { name := "Id", typeName := "int" }, { name := "id", typeName := "int" },
          { name := " ", typeName := "int" }, { name := "no", typeName := "int" },
          { name := "id", typeName := "int" }] }
    t.columns ≠ [] ∧
      (t.check .doris).defects = [.blankName "table name is empty",
        .blankName "column #2 has no name", .blankName "column #5 has no name"] ∧
      (t.check .doris).duplicates = [.repeated "id", .repeated "id"] ∧ ¬ t.givenNames.Nodup := by
  intro t
  have hcolumns : t.columns ≠ [] := List.cons_ne_nil _ _
  obtain ⟨-, hfound, -⟩ := check_finds .doris t
  obtain ⟨hdefects, hduplicates, -, hnodup⟩ := hfound hcolumns
  have hrepeated : t.repeatedNames = ["id", "id"] := by decide
  refine ⟨hcolumns, hdefects.trans (by decide), ?_, fun h => ?_⟩
  · rw [hduplicates, hrepeated]
    rfl
  · have hnone := hduplicates.symm.trans (hnodup.2 h)
    rw [hrepeated] at hnone
    cases hnone

end Table

end TableSql
