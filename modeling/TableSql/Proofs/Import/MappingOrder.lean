import Mathlib.Data.List.Pairwise
import TableSql.Proofs.Import.Values

/-!
# The order of a mapping list

* `Mapping.OnePerColumn` — no two active mappings of a list name the same column.
* `Mapping.Idle` — a mapping that an import into a table passes over.
* `Mapping.Entry.IsActive`, `Mapping.Entry.OnePerColumn`, `Mapping.Entry.Idle` — the same for the
  entries of a mapping file, told from the entries.

Principal results: `activeMapping?_eq_of_mem_iff` (the active mapping of a column counts wherever it
stands in the list), `activeMapping?_append_of_mapped` (a later mapping of the column does not), and
from them: an import does not depend on the order of its mappings, nor on what it passes over.
-/

set_option autoImplicit false

namespace TableSql

/-! ## What a list says about a column -/

namespace Mapping

/-- No two active mappings name the same column. -/
def OnePerColumn (mappings : List Mapping) : Prop :=
  mappings.Pairwise fun m n => m.isActive = true → n.isActive = true → m.column ≠ n.column

instance (mappings : List Mapping) : Decidable (OnePerColumn mappings) :=
  inferInstanceAs (Decidable (mappings.Pairwise _))

/-- An import into a table passes over a mapping that has nothing to take values from, or no column
of the table to bring them to. -/
inductive Idle (t : Table) (m : Mapping) : Prop where
  | noSource : m.source = none → Idle t m
  | emptyHeader : m.source = some (.header "") → Idle t m
  | emptyLiteral : m.source = some (.literal "") → Idle t m
  | unknownColumn : m.column ∉ t.columnNames → Idle t m

theorem isActive_eq_false_iff {m : Mapping} :
    m.isActive = false ↔
      m.source = none ∨ m.source = some (.header "") ∨ m.source = some (.literal "") := by
  rcases h : m.source with - | (name | value) <;> simp [isActive, h]

theorem idle_iff {t : Table} {m : Mapping} :
    m.Idle t ↔ m.isActive = false ∨ m.column ∉ t.columnNames := by
  rw [isActive_eq_false_iff]
  constructor
  · rintro (h | h | h | h)
    · exact .inl (.inl h)
    · exact .inl (.inr (.inl h))
    · exact .inl (.inr (.inr h))
    · exact .inr h
  · rintro ((h | h | h) | h)
    · exact .noSource h
    · exact .emptyHeader h
    · exact .emptyLiteral h
    · exact .unknownColumn h

instance (t : Table) (m : Mapping) : Decidable (m.Idle t) := decidable_of_iff _ idle_iff.symm

theorem OnePerColumn.eq_of_column_eq {mappings : List Mapping} (h : OnePerColumn mappings)
    {m n : Mapping} (hm : m ∈ mappings) (hn : n ∈ mappings) (hmactive : m.isActive = true)
    (hnactive : n.isActive = true) (hcolumn : m.column = n.column) : m = n := by
  have : Std.Symm fun m n : Mapping =>
      m.isActive = true → n.isActive = true → m.column ≠ n.column :=
    ⟨fun _ _ h hn hm => (h hm hn).symm⟩
  by_contra hne
  exact List.Pairwise.forall h hm hn hne hmactive hnactive hcolumn

end Mapping

section ActiveMapping

variable {mappings mappings' : List Mapping} {column : String}

theorem activeMapping?_eq_none :
    activeMapping? mappings column = none ↔
      ∀ m ∈ mappings, m.column = column → m.isActive = false := by
  simp [activeMapping?]

theorem mem_of_activeMapping?_eq_some {m : Mapping} (h : activeMapping? mappings column = some m) :
    m ∈ mappings ∧ m.column = column ∧ m.isActive = true := by
  obtain ⟨before, after, rfl, hcolumn, hactive, -⟩ := activeMapping?_eq_some.1 h
  exact ⟨by simp, hcolumn, hactive⟩

theorem activeMapping?_eq_of_unique {m : Mapping} (hm : m ∈ mappings) (hcolumn : m.column = column)
    (hactive : m.isActive = true)
    (hunique : ∀ n ∈ mappings, n.column = column → n.isActive = true → n = m) :
    activeMapping? mappings column = some m := by
  cases hn : activeMapping? mappings column with
  | none => simp [activeMapping?_eq_none.1 hn m hm hcolumn] at hactive
  | some n =>
    obtain ⟨hmem, hncolumn, hnactive⟩ := mem_of_activeMapping?_eq_some hn
    rw [hunique n hmem hncolumn hnactive]

/-- Two lists with the same active mapping of a column: it counts wherever it stands. -/
theorem activeMapping?_eq_of_mem_iff
    (hmem : ∀ m : Mapping, m.column = column → m.isActive = true →
      (m ∈ mappings' ↔ m ∈ mappings))
    (hunique : ∀ m ∈ mappings, ∀ n ∈ mappings, m.column = column → n.column = column →
      m.isActive = true → n.isActive = true → n = m) :
    activeMapping? mappings' column = activeMapping? mappings column := by
  cases hm : activeMapping? mappings column with
  | none =>
    rw [activeMapping?_eq_none] at hm ⊢
    intro n hn hcolumn
    by_contra hactive
    rw [Bool.not_eq_false] at hactive
    simp [hm n ((hmem n hcolumn hactive).1 hn) hcolumn] at hactive
  | some m =>
    obtain ⟨hmm, hcolumn, hactive⟩ := mem_of_activeMapping?_eq_some hm
    refine activeMapping?_eq_of_unique ((hmem m hcolumn hactive).2 hmm) hcolumn hactive ?_
    intro n hn hncolumn hnactive
    exact hunique m hmm n ((hmem n hncolumn hnactive).1 hn) hcolumn hncolumn hactive hnactive

/-- With two active mappings of a column, their order does matter. -/
example :
    let m : Mapping := { column := "a", source := some (.header "h") }
    let n : Mapping := { column := "a", source := some (.literal "x") }
    activeMapping? [m, n] "a" ≠ activeMapping? [n, m] "a" := by
  decide

/-- Behind an active mapping of each of their columns, more mappings change nothing. -/
theorem activeMapping?_append_of_mapped {extra : List Mapping}
    (hextra : ∀ m ∈ extra, ∃ n ∈ mappings, n.column = m.column ∧ n.isActive = true) :
    activeMapping? (mappings ++ extra) column = activeMapping? mappings column := by
  rw [activeMapping?, List.find?_append, ← activeMapping?, ← activeMapping?]
  cases hm : activeMapping? mappings column with
  | some m => rfl
  | none =>
    rw [Option.none_or, activeMapping?_eq_none]
    intro m hmextra hcolumn
    obtain ⟨n, hn, hncolumn, hnactive⟩ := hextra m hmextra
    simp [activeMapping?_eq_none.1 hm n hn (hncolumn.trans hcolumn)] at hnactive

end ActiveMapping

/-! ## Entries -/

namespace Mapping

theorem ofEntry_literal {e : Entry} {text : String} (hliteral : e.literal = some text)
    (hne : text ≠ "") : ofEntry e = { column := e.column, source := some (.literal text) } := by
  have htext : nonEmpty? e.literal = some text := nonEmpty?_eq_some_iff.2 ⟨hliteral, hne⟩
  simp [ofEntry, htext]

namespace Entry

/-- An entry names something to take values from when it has a literal or a header, not empty. -/
def IsActive (e : Entry) : Prop :=
  (e.literal ≠ none ∧ e.literal ≠ some "") ∨ (e.header ≠ none ∧ e.header ≠ some "")

instance (e : Entry) : Decidable e.IsActive := inferInstanceAs (Decidable (_ ∨ _))

/-- No two active entries name the same column. -/
def OnePerColumn (entries : List Entry) : Prop :=
  entries.Pairwise fun e f => e.IsActive → f.IsActive → e.column ≠ f.column

instance (entries : List Entry) : Decidable (OnePerColumn entries) :=
  inferInstanceAs (Decidable (entries.Pairwise _))

/-- An import into a table passes over an entry that is not active or has an unknown column. -/
def Idle (t : Table) (e : Entry) : Prop := ¬ e.IsActive ∨ e.column ∉ t.columnNames

instance (t : Table) (e : Entry) : Decidable (e.Idle t) := inferInstanceAs (Decidable (_ ∨ _))

theorem isActive_ofEntry (e : Entry) : (ofEntry e).isActive = true ↔ e.IsActive := by
  rw [← Bool.not_eq_false, isActive_eq_false_iff, IsActive, ← not_or, ← not_or,
    ← nonEmpty?_eq_none_iff, ← nonEmpty?_eq_none_iff, ← not_and_or]
  cases hliteral : nonEmpty? e.literal with
  | some text => simp [ofEntry, hliteral, (nonEmpty?_eq_some_iff.1 hliteral).2]
  | none =>
    cases hheader : nonEmpty? e.header with
    | some name => simp [ofEntry, hliteral, hheader, (nonEmpty?_eq_some_iff.1 hheader).2]
    | none => simp [ofEntry, hliteral, hheader]

theorem OnePerColumn.ofEntry {entries : List Entry} (h : OnePerColumn entries) :
    Mapping.OnePerColumn (entries.map Mapping.ofEntry) := by
  rw [Mapping.OnePerColumn, List.pairwise_map]
  refine List.Pairwise.imp (fun {e f} hef he hf => ?_) h
  exact hef ((isActive_ofEntry e).1 he) ((isActive_ofEntry f).1 hf)

theorem Idle.ofEntry {t : Table} {e : Entry} (h : e.Idle t) : (Mapping.ofEntry e).Idle t := by
  rw [idle_iff]
  rcases h with h | h
  · exact .inl (by rwa [← isActive_ofEntry, Bool.not_eq_true] at h)
  · exact .inr h

end Entry

end Mapping

/-! ## The import -/

namespace Table

variable {t : Table} {mappings mappings' : List Mapping}

/-- An import looks at a mapping list only to find the active mapping of each column. -/
theorem importStatement_congr
    (h : ∀ c ∈ t.columns, activeMapping? mappings' c.name = activeMapping? mappings c.name)
    (s : Sheet) (d : Dialect) :
    t.importStatement d mappings' s = t.importStatement d mappings s := by
  have hbindings : t.bindings mappings' s = t.bindings mappings s :=
    List.filterMap_congr fun c hc => by rw [h c hc]
  rw [importStatement, importStatement, hbindings]

theorem importStatement_perm {noise : List Mapping} (hone : Mapping.OnePerColumn mappings)
    (hnoise : ∀ m ∈ noise, m.Idle t) (hperm : mappings'.Perm (mappings ++ noise))
    (s : Sheet) (d : Dialect) :
    t.importStatement d mappings' s = t.importStatement d mappings s := by
  refine importStatement_congr (fun c hc => activeMapping?_eq_of_mem_iff ?_ ?_) s d
  · intro m hcolumn hactive
    have hknown : m.column ∈ t.columnNames := hcolumn ▸ List.mem_map_of_mem hc
    have hm : m ∉ noise := by
      intro hm
      rcases Mapping.idle_iff.1 (hnoise m hm) with h | h
      · simp [h] at hactive
      · exact h hknown
    rw [hperm.mem_iff, List.mem_append, or_iff_left hm]
  · intro m hm n hn hmcolumn hncolumn hmactive hnactive
    exact hone.eq_of_column_eq hn hm hnactive hmactive (hncolumn.trans hmcolumn.symm)

theorem importStatement_append {extra : List Mapping}
    (hextra : ∀ m ∈ extra, ∃ n ∈ mappings, n.column = m.column ∧ n.isActive = true)
    (s : Sheet) (d : Dialect) :
    t.importStatement d (mappings ++ extra) s = t.importStatement d mappings s :=
  importStatement_congr (fun _ _ => activeMapping?_append_of_mapped hextra) s d

/-- **The order and the noise of a mapping list do not matter.** Where no column has two active
mappings, the list may be put in any order, with idle mappings anywhere; and in any list a mapping
behind an active one of the same column changes nothing. The same holds for the entries of a mapping
file, where a literal that is not empty counts whatever the header. -/
theorem importStatement_rearranged (t : Table) (s : Sheet) (d : Dialect) :
    (∀ mappings noise shuffled : List Mapping, Mapping.OnePerColumn mappings →
      (∀ m ∈ noise, m.Idle t) → shuffled.Perm (mappings ++ noise) →
      t.importStatement d shuffled s = t.importStatement d mappings s) ∧
    (∀ mappings extra : List Mapping,
      (∀ m ∈ extra, ∃ n ∈ mappings, n.column = m.column ∧ n.isActive = true) →
      t.importStatement d (mappings ++ extra) s = t.importStatement d mappings s) ∧
    (∀ entries noise shuffled : List Mapping.Entry, Mapping.Entry.OnePerColumn entries →
      (∀ e ∈ noise, e.Idle t) → shuffled.Perm (entries ++ noise) →
      t.importStatement d (shuffled.map .ofEntry) s =
        t.importStatement d (entries.map .ofEntry) s) ∧
    (∀ entries extra : List Mapping.Entry,
      (∀ e ∈ extra, ∃ f ∈ entries, f.column = e.column ∧ f.IsActive) →
      t.importStatement d ((entries ++ extra).map .ofEntry) s =
        t.importStatement d (entries.map .ofEntry) s) ∧
    ∀ (e : Mapping.Entry) (text : String), e.literal = some text → text ≠ "" →
      Mapping.ofEntry e = { column := e.column, source := some (.literal text) } := by
  refine ⟨?mappings, ?laterMappings, ?entries, ?laterEntries, ?literal⟩
  case mappings =>
    intro mappings noise shuffled hone hnoise hperm
    exact importStatement_perm hone hnoise hperm s d
  case laterMappings =>
    intro mappings extra hextra
    exact importStatement_append hextra s d
  case entries =>
    intro entries noise shuffled hone hnoise hperm
    have hidle : ∀ m ∈ noise.map Mapping.ofEntry, m.Idle t := by
      intro m hm
      obtain ⟨e, he, rfl⟩ := List.mem_map.1 hm
      exact (hnoise e he).ofEntry
    have hmapped : (shuffled.map Mapping.ofEntry).Perm
        (entries.map Mapping.ofEntry ++ noise.map Mapping.ofEntry) := by
      rw [← List.map_append]
      exact hperm.map _
    exact importStatement_perm hone.ofEntry hidle hmapped s d
  case laterEntries =>
    intro entries extra hextra
    rw [List.map_append]
    refine importStatement_append (fun m hm => ?_) s d
    obtain ⟨e, he, rfl⟩ := List.mem_map.1 hm
    obtain ⟨f, hf, hcolumn, hactive⟩ := hextra e he
    exact ⟨Mapping.ofEntry f, List.mem_map_of_mem hf, hcolumn,
      (Mapping.Entry.isActive_ofEntry f).2 hactive⟩
  case literal =>
    intro e text hliteral hne
    exact Mapping.ofEntry_literal hliteral hne

/-- Mappings of each idle kind among the others, two active ones of an unknown column, a late one,
and an entry with a literal and a header. -/
theorem importStatement_rearranged_shuffled :
    let t : Table :=
      { name := "a"
        columns := [{ name := "x", typeName := "int" }, { name := "y", typeName := "text" }] }
    let s : Sheet := { headers := ["h"], rows := [[.string "1"], []] }
    let x : Mapping := { column := "x", source := some (.header "h") }
    let y : Mapping := { column := "y", source := some (.literal "NULL") }
    let noise : List Mapping :=
      [{ column := "x" }, { column := "y", source := some (.header "") },
        { column := "y", source := some (.literal "") },
        { column := "z", source := some (.literal "1") },
        { column := "z", source := some (.header "h") }]
    let late : Mapping := { column := "x", source := some (.literal "late") }
    let ex : Mapping.Entry := { column := "x", header := some "h" }
    let ey : Mapping.Entry := { column := "y", header := some "h", literal := some "NULL" }
    let ghost : Mapping.Entry := { column := "z", literal := some "1" }
    let blank : Mapping.Entry := { column := "x", header := some "", literal := some "" }
    (Mapping.OnePerColumn [x, y] ∧ (∀ m ∈ noise, m.Idle t) ∧
      (noise.reverse ++ [y, x]).Perm ([x, y] ++ noise) ∧
      t.importStatement .mysql (noise.reverse ++ [y, x]) s = t.importStatement .mysql [x, y] s) ∧
    ((∀ m ∈ [late], ∃ n ∈ [x, y], n.column = m.column ∧ n.isActive = true) ∧
      t.importStatement .mysql ([x, y] ++ [late]) s = t.importStatement .mysql [x, y] s) ∧
    (Mapping.Entry.OnePerColumn [ex, ey] ∧ (∀ e ∈ [ghost, blank], e.Idle t) ∧
      [ghost, ey, blank, ex].Perm ([ex, ey] ++ [ghost, blank]) ∧
      t.importStatement .mysql ([ghost, ey, blank, ex].map .ofEntry) s =
        t.importStatement .mysql ([ex, ey].map .ofEntry) s) ∧
    ((∀ e ∈ [blank], ∃ f ∈ [ex, ey], f.column = e.column ∧ f.IsActive) ∧
      t.importStatement .mysql (([ex, ey] ++ [blank]).map .ofEntry) s =
        t.importStatement .mysql ([ex, ey].map .ofEntry) s) ∧
    Mapping.ofEntry ey = y := by
  intro t s x y noise late ex ey ghost blank
  obtain ⟨hmappings, hlater, hentries, hlaterEntries, hliteral⟩ :=
    t.importStatement_rearranged s .mysql
  have hone : Mapping.OnePerColumn [x, y] := by decide
  have hnoise : ∀ m ∈ noise, m.Idle t := by decide
  have hperm : (noise.reverse ++ [y, x]).Perm ([x, y] ++ noise) := by decide
  have hlate : ∀ m ∈ [late], ∃ n ∈ [x, y], n.column = m.column ∧ n.isActive = true := by decide
  have hentryOne : Mapping.Entry.OnePerColumn [ex, ey] := by decide
  have hentryNoise : ∀ e ∈ [ghost, blank], e.Idle t := by decide
  have hentryPerm : [ghost, ey, blank, ex].Perm ([ex, ey] ++ [ghost, blank]) := by decide
  have hentryLate : ∀ e ∈ [blank], ∃ f ∈ [ex, ey], f.column = e.column ∧ f.IsActive := by decide
  exact ⟨⟨hone, hnoise, hperm, hmappings _ _ _ hone hnoise hperm⟩, ⟨hlate, hlater _ _ hlate⟩,
    ⟨hentryOne, hentryNoise, hentryPerm, hentries _ _ _ hentryOne hentryNoise hentryPerm⟩,
    ⟨hentryLate, hlaterEntries _ _ hentryLate⟩, hliteral ey "NULL" rfl (by decide)⟩

end Table

end TableSql
