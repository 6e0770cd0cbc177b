import TableSql.Grid.Extract

/-!
# When a table can be read from a grid

Whether a template can be followed is decided by its letters and its first row alone, before the
grid is looked at.

* `GridTemplate.letters` — the letters that a template goes by.
* `GridTemplate.Usable` — all of them name columns, and the first row can exist.

Principal results: `extractTable?_eq_ok_iff` (which table is read) and `exists_extractTable?_iff`
(a table is read exactly with a usable template, whatever the grid).
-/

set_option autoImplicit false

namespace TableSql

def NamesColumn (letters : String) : Prop := ∃ place, columnIndex? letters = .ok place

namespace GridTemplate

variable {t : GridTemplate}

/-- The letters that a template goes by: a column that may be left out counts only if its letters
are there and not blank. -/
def letters (t : GridTemplate) : List String :=
  [t.nameColumn, t.typeColumn] ++ t.commentLetters.toList ++ t.keyLetters.toList

/-- A template whose letters name columns and whose first row can exist. -/
structure Usable (t : GridTemplate) : Prop where
  startRow : t.startRow ≠ 0
  letters : ∀ letters ∈ t.letters, NamesColumn letters

/-! ## Places -/

theorem exists_place?_iff (o : Option String) :
    (∃ place, place? o = .ok place) ↔ ∀ letters ∈ o.toList, NamesColumn letters := by
  cases o with
  | none => simp [place?]
  | some letters =>
    simp only [place?, NamesColumn, Result.map_eq_ok, Option.mem_toList, Option.some.injEq,
      forall_eq']
    exact exists_comm.trans (by simp)

theorem places?_eq_ok_iff {p : Places} :
    t.places? = .ok p ↔ columnIndex? t.nameColumn = .ok p.name ∧
      columnIndex? t.typeColumn = .ok p.typeName ∧ place? t.commentLetters = .ok p.comment ∧
      place? t.keyLetters = .ok p.key := by
  simp only [places?, Result.bind_eq_ok, pure, Except.pure, Except.ok.injEq]
  constructor
  · rintro ⟨_, hname, _, htype, _, hcomment, _, hkey, rfl⟩
    exact ⟨hname, htype, hcomment, hkey⟩
  · rintro ⟨hname, htype, hcomment, hkey⟩
    exact ⟨_, hname, _, htype, _, hcomment, _, hkey, rfl⟩

/-- **A template has places exactly if all its letters name columns.** -/
theorem exists_places?_iff :
    (∃ p, t.places? = .ok p) ↔ ∀ letters ∈ t.letters, NamesColumn letters := by
  have hcomment := exists_place?_iff t.commentLetters
  have hkey := exists_place?_iff t.keyLetters
  simp only [letters, List.mem_append, or_imp, forall_and, ← hcomment, ← hkey, List.mem_cons,
    List.not_mem_nil, or_false, forall_eq]
  constructor
  · rintro ⟨p, hp⟩
    obtain ⟨hname, htype, hcomment, hkey⟩ := places?_eq_ok_iff.1 hp
    exact ⟨⟨⟨⟨_, hname⟩, _, htype⟩, _, hcomment⟩, _, hkey⟩
  · rintro ⟨⟨⟨⟨name, hname⟩, typeName, htype⟩, comment, hcomment⟩, key, hkey⟩
    exact ⟨⟨name, typeName, comment, key⟩, places?_eq_ok_iff.2 ⟨hname, htype, hcomment, hkey⟩⟩

end GridTemplate

/-! ## Tables -/

variable {name : String} {grid : List (List String)} {template : GridTemplate}

/-- The table that is read has the columns that the rows from the first one on describe. -/
theorem extractTable?_eq_ok_iff {t : Table} :
    extractTable? name grid template = .ok t ↔
      template.startRow ≠ 0 ∧ ∃ places, template.places? = .ok places ∧
        t = { name, columns :=
                (grid.drop (template.startRow.toNat - 1)).filterMap places.column? } := by
  unfold extractTable?
  by_cases hrow : template.startRow = 0
  · -- without a first row every way through the steps ends in a refusal
    cases template.places? <;> simp [hrow, bind, Except.bind, throw, throwThe, MonadExceptOf.throw]
  · simp only [hrow, if_false, Result.bind_eq_ok, pure, Except.pure, Except.ok.injEq, ne_eq,
      not_false_eq_true, true_and]
    simp only [eq_comm]

/-- **A table is read exactly with a usable template,** whatever its name and the grid. -/
theorem exists_extractTable?_iff :
    (∃ t, extractTable? name grid template = .ok t) ↔ template.Usable := by
  simp only [extractTable?_eq_ok_iff]
  constructor
  · rintro ⟨t, hrow, places, hplaces, -⟩
    exact ⟨hrow, GridTemplate.exists_places?_iff.1 ⟨places, hplaces⟩⟩
  · rintro ⟨hrow, hletters⟩
    obtain ⟨places, hplaces⟩ := GridTemplate.exists_places?_iff.2 hletters
    exact ⟨_, hrow, places, hplaces, rfl⟩

end TableSql
