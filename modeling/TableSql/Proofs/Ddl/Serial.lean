import TableSql.Ddl.Clauses
import TableSql.Proofs.Text.Ascii
import TableSql.Proofs.Text.Gaps

/-!
# Serial columns

The definition of a serial column has neither NOT NULL nor DEFAULT. What is taken for serial is every
type that SERIAL stands in, so that an enumeration with that value or a type of the user's own is
taken for it, too.

* `IsSerialType` — the types that take their values from a sequence.
* `MentionsSerial` — SERIAL stands somewhere in the name of a type.
* `Column.KeepsClauses` — NOT NULL and DEFAULT are written for all columns that want them.

Principal results: `mentionsSerial_typeToken_iff` (no dialect puts SERIAL into a type or takes it out
of one, except for the keys that PostgreSQL numbers by a sequence) and from it the columns whose
clauses are lost.
-/

set_option autoImplicit false

namespace TableSql

/-- The types that take their values from a sequence, in any letter case. -/
def IsSerialType (type : String) : Prop :=
  Text.asciiUpper type ∈ ["SERIAL", "BIGSERIAL", "SMALLSERIAL"]

instance (type : String) : Decidable (IsSerialType type) :=
  inferInstanceAs (Decidable (_ ∈ _))

/-- SERIAL stands somewhere in a type, in any letter case. -/
def MentionsSerial (type : String) : Prop :=
  "SERIAL".toList <:+: (Text.asciiUpper type).toList

theorem isSerial_iff (type : String) : isSerial type = true ↔ MentionsSerial type :=
  Text.occursIn_iff_isInfix _ _

instance (type : String) : Decidable (MentionsSerial type) :=
  decidable_of_iff _ (isSerial_iff type)

/-! ## Types -/

theorem IsSerialType.mentionsSerial {type : String} (h : IsSerialType type) :
    MentionsSerial type := by
  have hall : ∀ name ∈ ["SERIAL", "BIGSERIAL", "SMALLSERIAL"], MentionsSerial name := by decide
  have hname := hall _ h
  unfold MentionsSerial at hname ⊢
  rwa [Text.asciiUpper_asciiUpper] at hname

theorem mentionsSerial_asciiUpper_strip (type : String) :
    MentionsSerial (Text.asciiUpper (Text.strip type)) ↔ MentionsSerial type := by
  have hword : ∀ c ∈ "SERIAL".toList, Text.isBlank c = false := by
    have hall : "SERIAL".toList.all (!Text.isBlank ·) = true := by decide
    simpa only [List.all_eq_true, Bool.not_eq_true'] using hall
  obtain ⟨before, after, hbefore, hafter, htype⟩ := Text.Padded.stripChars type.toList
  have hblank {cs : List Char} (h : Text.AllBlank cs) : Text.AllBlank (cs.map Char.toUpper) := by
    intro c hc
    obtain ⟨b, hb, rfl⟩ := List.mem_map.1 hc
    rw [Text.isBlank_toUpper]
    exact h b hb
  have hpadded : Text.Padded (Text.asciiUpper (Text.strip type)).toList
      (Text.asciiUpper type).toList := by
    refine ⟨_, _, hblank hbefore, hblank hafter, ?_⟩
    rw [Text.toList_asciiUpper, Text.toList_asciiUpper, Text.strip, String.toList_ofList,
      ← List.map_append, ← List.map_append, ← htype]
  unfold MentionsSerial
  rw [Text.asciiUpper_asciiUpper]
  exact (hpadded.isInfix_iff hword).symm

/-- **No dialect puts SERIAL into a type or takes it out of one,** but for the integer keys of
PostgreSQL. -/
theorem mentionsSerial_typeName_iff (d : Dialect) (isKey : Bool) (upper : String) :
    MentionsSerial (d.typeName isKey upper) ↔ MentionsSerial upper ∨
      d = .postgresql ∧ isKey = true ∧ (TypeCategory.ofType upper).isInteger = true := by
  have hplain : ∀ names ∈ Dialect.otherTypeNames,
      ¬ MentionsSerial names.1 ∧ ¬ MentionsSerial names.2 := by decide
  constructor
  · intro h
    rcases d.typeName_cases isKey upper with ⟨hd, hkey, hinteger, -⟩ | hother | hsame
    · exact .inr ⟨hd, hkey, hinteger⟩
    · exact absurd h (hplain _ hother).2
    · rw [hsame] at h
      exact .inl h
  · rintro (h | ⟨rfl, rfl, hinteger⟩)
    · rcases d.typeName_cases isKey upper with ⟨-, -, -, hname⟩ | hother | hsame
      · rw [hname]
        decide
      · exact absurd h (hplain _ hother).1
      · rwa [hsame]
    · rw [Dialect.typeName_eq_serial hinteger]
      decide

/-! ## Columns -/

namespace Column

variable {d : Dialect} {c : Column}

theorem mentionsSerial_typeToken_iff (d : Dialect) (c : Column) :
    MentionsSerial (c.typeToken d) ↔ MentionsSerial c.typeName ∨
      d = .postgresql ∧ c.isKey = true ∧
        (TypeCategory.ofType (Text.asciiUpper (Text.strip c.typeName))).isInteger = true := by
  rw [typeToken, mentionsSerial_typeName_iff, mentionsSerial_asciiUpper_strip]

/-- Only an integer key of PostgreSQL has a serial type whose name does not say so. -/
theorem typeToken_eq_serial (hmentions : ¬ MentionsSerial c.typeName)
    (h : MentionsSerial (c.typeToken d)) : c.typeToken d = "SERIAL" := by
  rw [mentionsSerial_typeToken_iff] at h
  obtain ⟨rfl, hkey, hinteger⟩ := h.resolve_left hmentions
  rw [typeToken, hkey, Dialect.typeName_eq_serial hinteger]

/-- A default value is given, and something is in it. -/
def HasDefault (c : Column) : Prop := ∃ value, c.default? = some value ∧ value ≠ ""

theorem hasDefault_iff (c : Column) : c.HasDefault ↔ (nonEmpty? c.default?).isSome = true := by
  rw [Option.isSome_iff_exists]
  simp only [HasDefault, nonEmpty?_eq_some_iff]

theorem notNull_eq_some_iff :
    (c.clauses d).notNull = some "NOT NULL" ↔
      c.nullable = false ∧ ¬ MentionsSerial (c.typeToken d) := by
  rw [← isSerial_iff]
  unfold clauses
  simp only
  cases c.nullable <;> cases isSerial (c.typeToken d) <;> simp

theorem isSome_default?_iff :
    (c.clauses d).default?.isSome = true ↔ c.HasDefault ∧ ¬ MentionsSerial (c.typeToken d) := by
  rw [← isSerial_iff, hasDefault_iff]
  unfold clauses
  simp only [Option.isSome_map]
  cases nonEmpty? c.default? <;> cases isSerial (c.typeToken d) <;> simp

/-- NOT NULL is written if the column cannot be null, and DEFAULT if there is a default value, and
neither is written otherwise. -/
structure KeepsClauses (d : Dialect) (c : Column) : Prop where
  notNull : (c.clauses d).notNull = some "NOT NULL" ↔ c.nullable = false
  default? : (c.clauses d).default?.isSome = true ↔ c.HasDefault

theorem keepsClauses_iff_mentionsSerial :
    c.KeepsClauses d ↔
      ¬ MentionsSerial (c.typeToken d) ∨ c.nullable = true ∧ ¬ c.HasDefault := by
  constructor
  · rintro ⟨hnotNull, hdefault⟩
    rw [notNull_eq_some_iff] at hnotNull
    rw [isSome_default?_iff] at hdefault
    by_cases hmentions : MentionsSerial (c.typeToken d)
    · refine .inr ⟨?_, fun h => (hdefault.2 h).2 hmentions⟩
      rw [← Bool.not_eq_false]
      exact fun h => (hnotNull.2 h).2 hmentions
    · exact .inl hmentions
  · rintro (hmentions | ⟨hnullable, hdefault⟩)
    · constructor
      · rw [notNull_eq_some_iff]
        exact and_iff_left hmentions
      · rw [isSome_default?_iff]
        exact and_iff_left hmentions
    · constructor
      · simp [notNull_eq_some_iff, hnullable]
      · simp [isSome_default?_iff, hdefault]

/-- **A column of a type that is not serial keeps its clauses if SERIAL stands nowhere in the name of
the type** or there are none to keep; otherwise both are lost. -/
theorem keepsClauses_iff (h : ¬ IsSerialType (c.typeToken d)) :
    (c.KeepsClauses d ↔ ¬ MentionsSerial c.typeName ∨ c.nullable = true ∧ ¬ c.HasDefault) ∧
      (MentionsSerial c.typeName →
        (c.clauses d).notNull = none ∧ (c.clauses d).default? = none) := by
  have hsame : MentionsSerial (c.typeToken d) ↔ MentionsSerial c.typeName := by
    refine ⟨fun htoken => ?_, fun hname => (mentionsSerial_typeToken_iff d c).2 (.inl hname)⟩
    by_contra hname
    rw [typeToken_eq_serial hname htoken] at h
    exact h (by decide)
  refine ⟨?_, fun hname => ?_⟩
  · rw [keepsClauses_iff_mentionsSerial, hsame]
  · have hserial : isSerial (c.typeToken d) = true := (isSerial_iff _).2 (hsame.2 hname)
    unfold clauses
    simp [hserial]

/-- A type with a blank inside SERIAL, which is not taken for serial. -/
theorem keepsClauses_iff_spaced :
    let c : Column :=
      { name := "no", typeName := " seri al", nullable := false, default? := some "1" }
    ¬ IsSerialType (c.typeToken .postgresql) ∧ c.KeepsClauses .postgresql := by
  intro c
  have htype : ¬ IsSerialType (c.typeToken .postgresql) := by decide
  have hmentions : ¬ MentionsSerial c.typeName := by decide
  exact ⟨htype, (keepsClauses_iff htype).1.2 (.inl hmentions)⟩

/-- An enumeration with the value SERIAL is no serial type, and its column may be null and has no
default value all the same. -/
theorem enumeration_loses_clauses :
    let c : Column :=
      { name := "mode", typeName := "ENUM('SERIAL','PARALLEL')", nullable := false
        default? := some "'PARALLEL'" }
    ¬ IsSerialType (c.typeToken .mysql) ∧ c.HasDefault ∧
      c.definition .mysql = "`mode` ENUM('SERIAL','PARALLEL')" ∧ ¬ c.KeepsClauses .mysql := by
  intro c
  refine ⟨by decide, ⟨"'PARALLEL'", rfl, by decide⟩, by decide, ?_⟩
  intro hkeeps
  have hnotNull : (c.clauses .mysql).notNull = some "NOT NULL" := hkeeps.notNull.2 rfl
  revert hnotNull
  decide

end Column

end TableSql
