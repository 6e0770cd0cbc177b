import TableSql.Convert.Statement
import TableSql.Proofs.Text.Ascii

/-!
# Telling statements of Doris

* `Marked` — a text in which a clause stands that only Doris has.

Principal results: `detectDialect_of_marked` (nothing around such a clause can hide it) and
`dorisStatements_detected` (both statements that are written for Doris have one).
-/

set_option autoImplicit false

namespace TableSql

/-- A clause that only Doris has stands somewhere in a text. -/
def Marked (s : String) : Prop := ∃ mark ∈ dorisMarks, ∃ before after, s = before ++ mark ++ after

theorem Marked.append_left {b : String} (h : Marked b) (a : String) : Marked (a ++ b) := by
  obtain ⟨mark, hmark, before, after, rfl⟩ := h
  exact ⟨mark, hmark, a ++ before, after, by simp only [String.append_assoc]⟩

theorem Marked.append_right {a : String} (h : Marked a) (b : String) : Marked (a ++ b) := by
  obtain ⟨mark, hmark, before, after, rfl⟩ := h
  exact ⟨mark, hmark, before, after ++ b, by simp only [String.append_assoc]⟩

/-! ## Detection -/

theorem upperChars_toList_append (a b : String) :
    Text.upperChars (a ++ b).toList = Text.upperChars a.toList ++ Text.upperChars b.toList := by
  rw [String.toList_append, Text.upperChars_append]

/-- What stands in a text stands in its upper case, in upper case. -/
theorem occursIn_upper (before part after : String) :
    Text.occursIn (Text.upper part) (Text.upper (before ++ part ++ after)) = true := by
  rw [Text.occursIn, Text.occursChars_iff]
  refine ⟨Text.upperChars before.toList, Text.upperChars after.toList, ?_⟩
  simp only [Text.upper, String.toList_ofList, upperChars_toList_append]

theorem upper_of_mem_dorisMarks : ∀ mark ∈ dorisMarks, Text.upper mark = mark := by
  have hmarks : ∀ mark ∈ dorisMarks, Text.IsAscii mark ∧ Text.asciiUpper mark = mark := by decide
  intro mark hmark
  rw [Text.upper_of_isAscii (hmarks mark hmark).1, (hmarks mark hmark).2]

/-- **Upper case looks at one character at a time, so that no neighbour hides a clause.** -/
theorem detectDialect_of_marked {s : String} (h : Marked s) : detectDialect s = .doris := by
  obtain ⟨mark, hmark, before, after, rfl⟩ := h
  have hoccurs := occursIn_upper before mark after
  rw [upper_of_mem_dorisMarks mark hmark] at hoccurs
  have hany : dorisMarks.any (Text.occursIn · (Text.upper (before ++ mark ++ after))) = true :=
    List.any_eq_true.2 ⟨mark, hmark, hoccurs⟩
  unfold detectDialect
  simp only [hany, Bool.true_or, if_true]

/-! ## The statements for Doris -/

theorem marked_dorisOptions : Marked Table.dorisOptions := by
  have hwords : Marked "\nENGINE=OLAP\nUNIQUE KEY(" :=
    ⟨"ENGINE=OLAP", by decide, "\n", "\nUNIQUE KEY(", by decide⟩
  unfold Table.dorisOptions
  simp only [String.append_assoc]
  exact hwords.append_right _

theorem marked_toDoris (t : Table) (source : String) : Marked (t.toDoris source) := by
  have hwords : Marked " ENGINE = OLAP\nUNIQUE KEY(" :=
    ⟨"ENGINE = OLAP", by decide, " ", "\nUNIQUE KEY(", by decide⟩
  unfold Table.toDoris
  simp only [String.append_assoc]
  exact (hwords.append_right _).append_left _

/-- **Every statement that is written for Doris is told for one,** whatever the table and the source
statement hold. -/
theorem dorisStatements_detected (t : Table) (h : t.columns ≠ []) (source : String) :
    (∃ statement, t.create? .doris = .ok statement ∧ detectDialect statement = .doris) ∧
      detectDialect (t.toDoris source) = .doris := by
  have hmarked : Marked (t.createStatement .doris) :=
    (marked_dorisOptions.append_left _).append_right ";"
  exact ⟨⟨_, Table.create?_eq_ok .doris h, detectDialect_of_marked hmarked⟩,
    detectDialect_of_marked (marked_toDoris t source)⟩

/-- A table that does all it can to look like one of MySQL. -/
theorem dorisStatements_detected_disguised :
    let t : Table :=
      { name := "ENGINE=InnoDB"
        columns := [
          { name := "straße) ENGINE=InnoDB", typeName := "ENGINE=InnoDB", isKey := true,
            default? := some "ﬁ", comment := some "ENGINE=InnoDB" }]
        comment := some ") ENGINE=InnoDB;" }
    t.columns ≠ [] ∧
      (∃ statement, t.create? .doris = .ok statement ∧ detectDialect statement = .doris) ∧
      detectDialect (t.toDoris ") ENGINE=InnoDB COMMENT='ENGINE=InnoDB'") = .doris := by
  intro t
  have hcolumns : t.columns ≠ [] := List.cons_ne_nil _ _
  exact ⟨hcolumns, dorisStatements_detected t hcolumns _⟩

end TableSql
