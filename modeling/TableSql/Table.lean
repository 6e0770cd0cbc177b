import TableSql.TypeCategory

/-!
# Tables

* `Column`, `Table` — the description of a table, free of any dialect.
* `word32?` — the numbers that the sizes of a type may have.
* `Table.keyColumns` — the columns of the primary key, in the order of the table.
* `Table.keyColumn?` — the one column that tells rows apart in a sample statement.
* `Table.keysFirst` — the columns with those of the primary key in front.
-/

set_option autoImplicit false

namespace TableSql

/-- A text that is present and not empty. -/
def nonEmpty? (text : Option String) : Option String := text.filter (· ≠ "")

theorem nonEmpty?_eq_some_iff {text : Option String} {s : String} :
    nonEmpty? text = some s ↔ text = some s ∧ s ≠ "" := by
  simp [nonEmpty?, Option.filter_eq_some_iff]

theorem nonEmpty?_eq_none_iff {text : Option String} :
    nonEmpty? text = none ↔ text = none ∨ text = some "" := by
  cases text <;> simp [nonEmpty?]

/-- A number that fits 32 bits. -/
def word32? (n : Nat) : Option UInt32 :=
  if n < UInt32.size then some (UInt32.ofNat n) else none

structure Column where
  name : String
  typeName : String
  length : Option UInt32 := none
  scale : Option UInt32 := none
  nullable : Bool := true
  isKey : Bool := false
  default? : Option String := none
  comment : Option String := none
  deriving DecidableEq, Repr

structure Table where
  name : String
  columns : List Column := []
  engine : Option String := none
  comment : Option String := none
  deriving DecidableEq, Repr

namespace Column

/-- The form in which a column's type is compared. -/
def typeKey (c : Column) : String := TypeCategory.typeKey c.typeName

def category (c : Column) : TypeCategory := TypeCategory.ofType c.typeName

/-- A column's comment, if there is something in it. -/
def commentText (c : Column) : Option String := nonEmpty? c.comment

end Column

namespace Table

/-- A table's comment, if there is something in it. -/
def commentText (t : Table) : Option String := nonEmpty? t.comment

/-- The columns of the primary key, in the order of the table. -/
def keyColumns (t : Table) : List Column := t.columns.filter (·.isKey)

def columnNames (t : Table) : List String := t.columns.map (·.name)

/-- The names of the columns of the primary key. -/
def keyNames (t : Table) : List String := t.keyColumns.map (·.name)

def hasKey (t : Table) : Bool := t.columns.any (·.isKey)

/-- The first column of a name. -/
def column? (t : Table) (name : String) : Option Column := t.columns.find? (·.name == name)

/-- The first column of the primary key, or else the first column. -/
def keyColumn? (t : Table) : Option Column := (t.columns.find? (·.isKey)).or t.columns.head?

/-- The columns with those of the primary key in front, otherwise in the order of the table. -/
def keysFirst (t : Table) : List Column := t.keyColumns ++ t.columns.filter (!·.isKey)

theorem mem_keyColumns {t : Table} {c : Column} :
    c ∈ t.keyColumns ↔ c ∈ t.columns ∧ c.isKey = true :=
  List.mem_filter

theorem exists_column_of_mem_keyNames {t : Table} {name : String} (h : name ∈ t.keyNames) :
    ∃ c ∈ t.columns, c.name = name := by
  rw [keyNames, List.mem_map] at h
  obtain ⟨c, hc, hname⟩ := h
  exact ⟨c, (mem_keyColumns.1 hc).1, hname⟩

theorem keysFirst_perm (t : Table) : t.keysFirst.Perm t.columns :=
  List.filter_append_perm Column.isKey t.columns

theorem mem_keysFirst {t : Table} {c : Column} : c ∈ t.keysFirst ↔ c ∈ t.columns :=
  t.keysFirst_perm.mem_iff

/-- The first of them is the first one of the primary key, if there is a key. -/
theorem head?_keysFirst (t : Table) : t.keysFirst.head? = t.keyColumn? := by
  unfold keysFirst keyColumns keyColumn?
  rw [List.head?_append, List.head?_filter]
  cases hkey : t.columns.find? (·.isKey) with
  | some c => simp
  | none =>
    have hnone : t.columns.filter (!·.isKey) = t.columns := by
      rw [List.filter_eq_self]
      simpa using List.find?_eq_none.1 hkey
    rw [hnone]

theorem keyColumn?_eq_none_iff (t : Table) : t.keyColumn? = none ↔ t.columns = [] := by
  cases h : t.columns with
  | nil => simp [keyColumn?, h]
  | cons c cs => simp [keyColumn?, h]

end Table

end TableSql
