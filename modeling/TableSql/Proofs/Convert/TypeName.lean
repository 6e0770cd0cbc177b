import TableSql.Convert.TypeName
import TableSql.Proofs.Text.Ascii
import TableSql.Proofs.Text.Pieces

/-!
# Types of MySQL and Doris for each other

* `Text.Normalized` — a text over ASCII that is in upper case and stripped.
* `Column.dorisRule?` — the rule that a conversion to Doris follows.
* `Column.retyped` — a column of another type, with no length or scale beside it.

Principal results: `Column.exists_typeText_eq` (the parts of a type in a statement),
`Column.dorisType_mem_or_eq` (a conversion to Doris puts one of a few types, or leaves the type),
and from them that a converted type stays as it is, also by way of MySQL.
-/

set_option autoImplicit false

namespace TableSql

/-! ## Lengths -/

theorem lengthText_optional (n : Option UInt32) :
    LengthText ((n.map fun n => s!"({n.toNat})").getD "") := by
  cases n with
  | none => exact .absent
  | some n => exact .length n.toNat

/-- **A type in a statement is the name in upper case and a length or nothing.** -/
theorem Column.exists_typeText_eq (c : Column) :
    ∃ length, LengthText length ∧ c.typeText = Text.upper (Text.strip c.typeName) ++ length := by
  unfold Column.typeText
  simp only
  split
  · exact ⟨"", .absent, by simp⟩
  · refine ⟨_, ?_, rfl⟩
    split
    case h_10 => exact .absent
    case h_5 | h_6 =>
      split
      · exact .precision _ _
      · exact lengthText_optional _
    all_goals exact lengthText_optional _

/-! ## Normalized texts -/

/-- A text over ASCII that is in upper case and stripped. -/
structure Text.Normalized (s : String) : Prop where
  ascii : Text.IsAscii s
  upper : Text.asciiUpper s = s
  stripped : Text.Stripped s.toList

namespace Text.Normalized

variable {s t : String}

theorem upper_strip (h : Normalized s) : Text.upper (Text.strip s) = s := by
  have hstrip : Text.strip s = s := by
    rw [Text.strip, h.stripped.stripChars_eq, String.ofList_toList]
  rw [hstrip, Text.upper_of_isAscii h.ascii, h.upper]

theorem of_isAscii (h : IsAscii s) : Normalized (Text.upper (Text.strip s)) := by
  rw [Text.upper_of_isAscii h.strip]
  refine ⟨h.strip.asciiUpper, asciiUpper_asciiUpper _, ?_⟩
  have hstripped : Stripped (Text.strip s).toList := by
    rw [Text.strip, String.toList_ofList]
    exact .stripChars _
  rw [Text.toList_asciiUpper]
  constructor
  · intro c hc
    rw [List.head?_map, Option.map_eq_some_iff] at hc
    obtain ⟨d, hd, rfl⟩ := hc
    rw [isBlank_toUpper]
    exact hstripped.front d hd
  · intro c hc
    rw [List.getLast?_map, Option.map_eq_some_iff] at hc
    obtain ⟨d, hd, rfl⟩ := hc
    rw [isBlank_toUpper]
    exact hstripped.back d hd

theorem append (hs : Normalized s) (ht : Normalized t) : Normalized (s ++ t) := by
  refine ⟨hs.ascii.append ht.ascii, ?_, ?_⟩
  · rw [asciiUpper_append, hs.upper, ht.upper]
  · rw [String.toList_append]
    exact hs.stripped.append ht.stripped

instance (s : String) : Decidable (Normalized s) :=
  decidable_of_iff (IsAscii s ∧ Text.asciiUpper s = s ∧ Text.stripChars s.toList = s.toList)
    ⟨fun ⟨ascii, upper, stripped⟩ => ⟨ascii, upper, stripped ▸ .stripChars s.toList⟩,
      fun h => ⟨h.ascii, h.upper, h.stripped.stripChars_eq⟩⟩

theorem number (n : Nat) : Normalized (toString n) := by
  have hdigit {c : Char} (hc : c ∈ (toString n).toList) :
      c.toNat < 128 ∧ c.toUpper = c ∧ isBlank c = false := by
    have hdigit := isDigit_of_mem_toString hc
    have hlt := toNat_lt_of_isDigit hdigit
    refine ⟨hlt, ?_⟩
    exact forall_ascii (p := fun c => c.isDigit = true → c.toUpper = c ∧ isBlank c = false)
      (by decide) hlt hdigit
  refine ⟨fun c hc => (hdigit hc).1, ?_, .of_forall fun c hc => (hdigit hc).2.2⟩
  rw [← String.toList_inj, toList_asciiUpper]
  exact (List.map_congr_left fun c hc => (hdigit hc).2.1).trans (List.map_id' _)

end Text.Normalized

theorem LengthText.normalized {s : String} (h : LengthText s) : Text.Normalized s :=
  h.induction (by decide) .append (by decide) (by decide) (by decide) .number

/-! ## The rule of a conversion -/

/-- The types that a conversion to Doris puts in the place of others. -/
def dorisTypes : List String :=
  ["BOOLEAN", "BIGINT", "INT", "TINYINT", "SMALLINT", "MEDIUMINT", "DOUBLE", "FLOAT", "STRING",
    "DATETIME"]

namespace Column

theorem mem_dorisTypes {length : Option UInt32} {base : String} {arguments : Option (List Char)}
    {type : String} (h : Column.dorisTypeOf? length base arguments = some type) :
    type ∈ dorisTypes := by
  unfold Column.dorisTypeOf? at h
  split at h
  case h_19 => cases h
  case h_1 | h_10 | h_11 | h_12 | h_13 | h_14 | h_15 | h_18 =>
    cases h
    decide
  all_goals
    split at h
    · cases h
      decide
    · cases h

/-- A rule that applies without a length beside the type applies whatever stands beside it. -/
theorem dorisTypeOf?_of_absent {base type : String} {arguments : Option (List Char)}
    (h : dorisTypeOf? none base arguments = some type) (length : Option UInt32) :
    dorisTypeOf? length base arguments = some type := by
  unfold dorisTypeOf? at h
  split at h
  case h_2 | h_19 => cases h
  case h_5 =>
    unfold dorisTypeOf?
    simp [h]
  all_goals exact h

/-- The Doris type that a rule gives to a written type with a length beside it, if one does. -/
def dorisRule? (length : Option UInt32) (type : String) : Option String :=
  dorisTypeOf? length (String.ofList (splitArguments type.toList).1) (splitArguments type.toList).2

variable {c : Column}

theorem dorisType_eq (c : Column) :
    c.dorisType = (dorisRule? c.length c.typeText).getD c.typeText := by
  unfold dorisType dorisRule?
  obtain ⟨base, arguments⟩ := splitArguments c.typeText.toList
  simp only

/-- **A conversion to Doris puts one of a few types, or leaves the type as it is.** -/
theorem dorisType_mem_or_eq (c : Column) :
    c.dorisType ∈ dorisTypes ∨
      dorisRule? c.length c.typeText = none ∧ c.dorisType = c.typeText := by
  rw [dorisType_eq]
  cases hrule : dorisRule? c.length c.typeText with
  | none =>
    right
    exact ⟨rfl, Option.getD_none⟩
  | some type =>
    left
    rw [Option.getD_some]
    exact mem_dorisTypes hrule

/-! ## Converted types -/

/-- A column of another type, with no length or scale beside it. -/
def retyped (c : Column) (type : String) : Column :=
  { c with typeName := type, length := none, scale := none }

theorem typeText_retyped (c : Column) (type : String) :
    (c.retyped type).typeText = Text.upper (Text.strip type) := by
  unfold typeText retyped
  simp only
  split
  · rfl
  · split <;> simp [positive?]

theorem dorisType_retyped (c : Column) {type written : String}
    (h : Text.upper (Text.strip type) = written) :
    (c.retyped type).dorisType = (dorisRule? none written).getD written := by
  rw [dorisType_eq, typeText_retyped, h]
  rfl

theorem normalized_typeText (h : Text.IsAscii c.typeName) : Text.Normalized c.typeText := by
  obtain ⟨length, hlength, htype⟩ := c.exists_typeText_eq
  rw [htype]
  exact (Text.Normalized.of_isAscii h).append hlength.normalized

/-- The types that rules put are written as they are, and no rule puts another one for them. -/
theorem dorisTypes_settled : ∀ type ∈ dorisTypes,
    Text.Normalized type ∧ (dorisRule? none type).getD type = type := by decide +kernel

theorem normalized_dorisType (h : Text.IsAscii c.typeName) : Text.Normalized c.dorisType := by
  rcases c.dorisType_mem_or_eq with hmem | ⟨-, htype⟩
  · exact (dorisTypes_settled _ hmem).1
  · rw [htype]
    exact normalized_typeText h

/-- **A converted type is left by a second conversion.** -/
theorem dorisType_retyped_dorisType (h : Text.IsAscii c.typeName) (d : Column) :
    (d.retyped c.dorisType).dorisType = c.dorisType := by
  rw [d.dorisType_retyped (normalized_dorisType h).upper_strip]
  rcases c.dorisType_mem_or_eq with hmem | ⟨hrule, htype⟩
  · exact (dorisTypes_settled _ hmem).2
  · rw [htype]
    cases hagain : dorisRule? none c.typeText with
    | none => exact Option.getD_none
    | some type =>
      -- the first conversion would have followed the same rule
      have := dorisTypeOf?_of_absent hagain c.length
      unfold dorisRule? at hrule
      rw [hrule] at this
      cases this

/-- **A type with no length beside it goes to Doris as it does by way of MySQL.** -/
theorem dorisType_retyped_mysqlType {type : String} (h : Text.Normalized type) (d e : Column) :
    (d.retyped (e.retyped type).mysqlType).dorisType = (e.retyped type).dorisType := by
  have hway : ∀ pair ∈ [("STRING", "TEXT"), ("BOOLEAN", "TINYINT(1)")],
      Text.Normalized pair.2 ∧ (dorisRule? none pair.1).getD pair.1 =
        (dorisRule? none pair.2).getD pair.2 := by decide +kernel
  rw [e.dorisType_retyped h.upper_strip]
  unfold mysqlType
  rw [typeText_retyped, h.upper_strip]
  split
  · obtain ⟨htext, hrule⟩ := hway ("STRING", "TEXT") (by simp)
    rw [d.dorisType_retyped htext.upper_strip, hrule]
  · obtain ⟨htext, hrule⟩ := hway ("BOOLEAN", "TINYINT(1)") (by simp)
    rw [d.dorisType_retyped htext.upper_strip, hrule]
  · exact d.dorisType_retyped h.upper_strip

/-- **Converting a converted type changes nothing,** and neither does going to MySQL with it and
back. -/
theorem converted_types_settle (h : Text.IsAscii c.typeName) (d e f : Column) :
    (d.retyped c.dorisType).dorisType = c.dorisType ∧
      (f.retyped (e.retyped c.dorisType).mysqlType).dorisType = c.dorisType := by
  refine ⟨dorisType_retyped_dorisType h d, ?_⟩
  rw [dorisType_retyped_mysqlType (normalized_dorisType h)]
  exact dorisType_retyped_dorisType h e

/-- A type in lower case between blanks, which goes to MySQL and back as another one. -/
theorem converted_types_settle_text :
    let c : Column := { name := "c", typeName := " tinytext ", length := some 1, scale := some 2 }
    Text.IsAscii c.typeName ∧ c.dorisType = "STRING" ∧ (c.retyped "STRING").mysqlType = "TEXT" ∧
      (c.retyped c.dorisType).dorisType = c.dorisType ∧
      (c.retyped (c.retyped c.dorisType).mysqlType).dorisType = c.dorisType := by
  intro c
  have hascii : Text.IsAscii c.typeName := by decide
  have hdoris : c.dorisType = "STRING" := by decide +kernel
  have hmysql : (c.retyped "STRING").mysqlType = "TEXT" := by decide +kernel
  exact ⟨hascii, hdoris, hmysql, converted_types_settle hascii c c c⟩

end Column
end TableSql
