import TableSql.Ddl.Clauses
import TableSql.Proofs.Convert.TypeName
import TableSql.Proofs.Grid.TypeCell

/-!
# Types of statements as type cells

A type that MySQL and Doris statements show can be copied into a type cell: the reader of cells
finds the name, the length and the scale again that the statement was written from.

* `Column.PlainType` — columns whose type is a plain name that takes a length.

Principal results: `Column.fullType_of_plainType` (what is written), `ofCells_append_lengthClause`
(what is read of a name with a length behind it), and from them that writing, reading and writing
again gives the same text.
-/

set_option autoImplicit false

namespace TableSql

/-! ## Names in upper case -/

theorem isTypeNameChar_lt {c : Char} (h : isTypeNameChar c = true) : c.toNat < 128 := by
  simp only [isTypeNameChar, Bool.or_eq_true, beq_iff_eq] at h
  rcases h with ((hletter | hdigit) | rfl) | rfl
  · exact toNat_lt_of_isAsciiLetter hletter
  · exact Text.toNat_lt_of_isDigit hdigit
  · decide
  · decide

theorem isAsciiLetter_toUpper {c : Char} (h : isAsciiLetter c = true) :
    isAsciiLetter c.toUpper = true :=
  Text.forall_ascii (p := fun c => isAsciiLetter c = true → isAsciiLetter c.toUpper = true)
    (by decide) (toNat_lt_of_isAsciiLetter h) h

theorem isTypeNameChar_toUpper {c : Char} (h : isTypeNameChar c = true) :
    isTypeNameChar c.toUpper = true :=
  Text.forall_ascii (p := fun c => isTypeNameChar c = true → isTypeNameChar c.toUpper = true)
    (by decide) (isTypeNameChar_lt h) h

namespace IsTypeName

variable {name : String}

theorem isAscii (h : IsTypeName name) : Text.IsAscii name :=
  fun c hc => isTypeNameChar_lt (h.chars c hc)

theorem strip_eq (h : IsTypeName name) : Text.strip name = name := by
  rw [Text.strip, h.stripped.stripChars_eq, String.ofList_toList]

theorem normalized_asciiUpper (h : IsTypeName name) : Text.Normalized (Text.asciiUpper name) := by
  have hnormalized := Text.Normalized.of_isAscii h.isAscii
  rwa [h.strip_eq, Text.upper_of_isAscii h.isAscii] at hnormalized

theorem asciiUpper (h : IsTypeName name) : IsTypeName (Text.asciiUpper name) := by
  obtain ⟨first, hfirst, hletter⟩ := h.first
  refine ⟨⟨first.toUpper, ?_, isAsciiLetter_toUpper hletter⟩, fun c hc => ?_,
    h.normalized_asciiUpper.stripped⟩
  · rw [Text.toList_asciiUpper, List.head?_map, hfirst, Option.map_some]
  · rw [Text.toList_asciiUpper, List.mem_map] at hc
    obtain ⟨c, hc, rfl⟩ := hc
    exact isTypeNameChar_toUpper (h.chars c hc)

end IsTypeName

/-! ## Reading a name with a length behind it -/

theorem positive?_positive? (n : Option UInt32) : positive? (positive? n) = positive? n := by
  simp [positive?, Option.filter_filter]

/-- Numbers that do not count may be left out. -/
theorem lengthClause_positive? (length scale : Option UInt32) :
    lengthClause (positive? length) ((positive? length).bind fun _ => positive? scale) =
      lengthClause length scale := by
  unfold lengthClause
  rw [positive?_positive?]
  cases positive? length with
  | none => rfl
  | some n => rw [Option.bind_some, positive?_positive?]

/-- **The cell of a name with a length behind it gives the name, the length and the scale,** as far
as they are not zero. -/
theorem ofCells_append_lengthClause {typeName : String} (h : IsTypeName typeName)
    (length scale : Option UInt32) (name : String) :
    Column.ofCells name (typeName ++ (lengthClause length scale).getD "") =
      { name, typeName, length := positive? length
        scale := (positive? length).bind fun _ => positive? scale } := by
  unfold lengthClause
  cases hlength : positive? length with
  | none =>
    rw [Option.map_none, Option.getD_none, String.append_empty]
    refine ofCells_eq_of_not_typeCell ?_ name
    rintro _ _ _ ⟨-, front, behind, hcell, -, -⟩
    exact h.no_parenthesis.1 (by simp [hcell])
  | some n =>
    rw [Option.map_some, Option.getD_some]
    cases hscale : positive? scale with
    | none => exact (h.typeCell_length n).ofCells_eq name
    | some m => exact (h.typeCell_precision n m).ofCells_eq name

/-! ## Writing, reading and writing again -/

/-- A column whose type is a plain name that takes a length: letters, digits, underscores and
spaces, with a letter in front. -/
structure Column.PlainType (c : Column) : Prop where
  first : ∃ first, c.typeName.toList.head? = some first ∧ isAsciiLetter first = true
  chars : ∀ char ∈ c.typeName.toList, isTypeNameChar char = true
  sized : c.typeKey ∉ ["datetime", "text", "date", "timestamp", "serial"]

namespace Column

variable {d : Dialect} {c : Column}

theorem typeKey_asciiUpper (h : IsTypeName (Text.strip c.typeName)) :
    Text.asciiLower (Text.asciiUpper (Text.strip c.typeName)) = c.typeKey :=
  h.isAscii.asciiLower_asciiUpper

theorem PlainType.isTypeName (h : c.PlainType) : IsTypeName (Text.strip c.typeName) := by
  obtain ⟨first, hfirst, hletter⟩ := h.first
  have hfront : Text.stripFront c.typeName.toList = c.typeName.toList := by
    refine Text.stripFront_eq_self fun char hchar => ?_
    obtain rfl : first = char := Option.some.inj (hfirst.symm.trans hchar)
    exact isBlank_of_isAsciiLetter hletter
  rw [Text.strip, Text.stripChars, hfront]
  exact isTypeName_stripBack hfirst hletter h.chars

theorem PlainType.upper (h : c.PlainType) (name : String) (length scale : Option UInt32) :
    PlainType { name, typeName := Text.asciiUpper (Text.strip c.typeName), length, scale } := by
  have htoken := h.isTypeName.asciiUpper
  refine ⟨htoken.first, htoken.chars, ?_⟩
  unfold typeKey TypeCategory.typeKey
  rw [htoken.strip_eq, typeKey_asciiUpper h.isTypeName]
  exact h.sized

/-- **MySQL and Doris statements show the name in upper case with the length behind it.** -/
theorem fullType_of_plainType (hd : d = .mysql ∨ d = .doris) (h : c.PlainType) :
    (c.clauses d).fullType = Text.asciiUpper (Text.strip c.typeName) ++
      (TableSql.lengthClause c.length c.scale).getD "" := by
  have htoken : c.typeToken d = Text.asciiUpper (Text.strip c.typeName) := by
    rcases hd with rfl | rfl
    · rfl
    · rfl
  have haccepts : d.acceptsLength (c.typeToken d) = true := by
    rcases hd with rfl | rfl
    · rfl
    · rfl
  have hexempt : isLengthExempt c.typeKey = false := by
    unfold isLengthExempt
    rw [← Bool.not_eq_true, List.contains_iff_mem]
    exact h.sized
  have hlower : Text.asciiLower (c.typeToken d) = c.typeKey := by
    rw [htoken, typeKey_asciiUpper h.isTypeName]
  have hopen : (c.typeToken d).toList.contains '(' = false := by
    rw [← Bool.not_eq_true, List.contains_iff_mem, htoken]
    exact h.isTypeName.asciiUpper.no_parenthesis.1
  have hclause : c.lengthClause d = TableSql.lengthClause c.length c.scale := by
    unfold lengthClause
    simp only [hexempt, hlower, hopen, haccepts, Bool.not_true, Bool.or_self, Bool.false_eq_true,
      if_false]
  rw [fullType_clauses, hclause, htoken]

/-- **Types of MySQL and Doris statements are read back.** The cell that holds what a statement
shows gives the name in upper case, the length if there is one other than zero, and then the scale
if there is one other than zero; and the type that is read is written as the same text again. -/
theorem written_types_read_back (hd : d = .mysql ∨ d = .doris) (h : c.PlainType) (name : String) :
    Column.ofCells name (c.clauses d).fullType =
      { name, typeName := Text.asciiUpper (Text.strip c.typeName)
        length := c.length.filter (· ≠ 0)
        scale := (c.length.filter (· ≠ 0)).bind fun _ => c.scale.filter (· ≠ 0) } ∧
    ((Column.ofCells name (c.clauses d).fullType).clauses d).fullType =
      (c.clauses d).fullType := by
  have htoken := h.isTypeName.asciiUpper
  have hread := ofCells_append_lengthClause htoken c.length c.scale name
  rw [fullType_of_plainType hd h]
  refine ⟨hread, ?_⟩
  rw [hread, fullType_of_plainType hd (h.upper name _ _)]
  simp only [htoken.strip_eq, h.isTypeName.normalized_asciiUpper.upper, lengthClause_positive?]

/-- A name with spaces in it and behind it, and a scale of zero. -/
theorem written_types_read_back_precision :
    let c : Column :=
      { name := "ratio", typeName := "double precision ", length := some 10, scale := some 0,
        isKey := true, comment := some "(1,2)" }
    c.PlainType ∧ (c.clauses .mysql).fullType = "DOUBLE PRECISION(10)" ∧
      Column.ofCells "ratio" (c.clauses .mysql).fullType =
        { name := "ratio", typeName := "DOUBLE PRECISION", length := some 10 } ∧
      ((Column.ofCells "ratio" (c.clauses .mysql).fullType).clauses .mysql).fullType =
        (c.clauses .mysql).fullType := by
  intro c
  have hplain : c.PlainType :=
    ⟨⟨'d', by decide, by decide⟩, List.all_eq_true.1 (by decide), by decide⟩
  have hwritten : (c.clauses .mysql).fullType = "DOUBLE PRECISION(10)" := by decide +kernel
  obtain ⟨hread, hagain⟩ := written_types_read_back (.inl rfl) hplain "ratio"
  have hupper : Text.asciiUpper (Text.strip c.typeName) = "DOUBLE PRECISION" := by decide +kernel
  rw [hupper] at hread
  exact ⟨hplain, hwritten, hread, hagain⟩

end Column

end TableSql
