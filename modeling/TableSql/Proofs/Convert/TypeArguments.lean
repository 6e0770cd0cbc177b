import TableSql.Proofs.Convert.TypeName
import TableSql.Proofs.Grid.TypeCell

/-!
# Types with an argument

The length of a type stands either behind its name, in parentheses, or beside it, as a type cell
gives it.

* `argumentTypes` — types of MySQL with one argument, in four families.
* `keptArguments` — the family whose argument is kept where it stands behind the name.

Principal results: `Column.dorisType_behind` and `Column.dorisType_beside` (the rule that either
form follows), and from them when the two give the same type.
-/

set_option autoImplicit false

namespace TableSql

/-- Integers: the argument is a display width. -/
def widthTypes : List String := ["BIGINT", "INT", "TINYINT", "SMALLINT", "MEDIUMINT"]

/-- Times: the argument is a number of digits. -/
def timeTypes : List String := ["DATETIME", "TIMESTAMP"]

/-- Types whose argument Doris knows too. -/
def sizedTypes : List String := ["VARCHAR", "CHAR", "DECIMAL"]

/-- Types that no rule takes a single number from: the rules for them ask for two numbers, or for
no arguments at all. -/
def keptArguments : List String :=
  ["DOUBLE", "FLOAT", "TEXT", "TINYTEXT", "MEDIUMTEXT", "LONGTEXT"]

/-- Types of MySQL with one argument, in upper case. -/
def argumentTypes : List String := widthTypes ++ timeTypes ++ sizedTypes ++ keptArguments

/-! ## Names of types -/

theorem isAsciiLetter_of_isUpper_toUpper {c : Char} (h : c.toUpper.isUpper = true) :
    isAsciiLetter c = true := by
  unfold Char.toUpper at h
  unfold isAsciiLetter
  rw [Bool.or_eq_true, Bool.and_eq_true, Bool.and_eq_true]
  split at h
  · rename_i hlower
    right
    exact ⟨decide_eq_true hlower.1, decide_eq_true hlower.2⟩
  · left
    have hupper := of_decide_eq_true h
    exact ⟨decide_eq_true hupper.1, decide_eq_true hupper.2⟩

theorem isTypeName_of_letters {name : String} (hne : name ≠ "")
    (h : ∀ c ∈ name.toList, isAsciiLetter c = true) : IsTypeName name := by
  refine ⟨?_, fun c hc => ?_, .of_forall fun c hc => ?_⟩
  · have hne' : name.toList ≠ [] := by simpa using hne
    obtain ⟨first, rest, hlist⟩ := List.exists_cons_of_ne_nil hne'
    exact ⟨first, by rw [hlist, List.head?_cons], h first (by simp [hlist])⟩
  · simp [isTypeNameChar, h c hc]
  · exact isBlank_of_isAsciiLetter (h c hc)

theorem letters_of_mem_argumentTypes {base : String} (h : Text.asciiUpper base ∈ argumentTypes) :
    base ≠ "" ∧ ∀ c ∈ base.toList, isAsciiLetter c = true := by
  have hcapitals : ∀ type ∈ argumentTypes, type ≠ "" ∧ type.toList.all Char.isUpper = true := by
    decide
  obtain ⟨hne, hupper⟩ := hcapitals _ h
  rw [List.all_eq_true] at hupper
  refine ⟨?_, fun c hc => isAsciiLetter_of_isUpper_toUpper (hupper _ ?_)⟩
  · rintro rfl
    exact hne (by decide)
  · rw [Text.toList_asciiUpper]
    exact List.mem_map_of_mem hc

/-! ## Arguments -/

theorem splitArguments_name {name : List Char} (h : '(' ∉ name) :
    splitArguments name = (name, none) := by
  have hspan : name.span (· ≠ '(') = (name, []) :=
    Text.span_eq_self fun c hc => decide_eq_true fun he => h (he ▸ hc)
  unfold splitArguments
  rw [hspan]

theorem splitArguments_append {name inside : List Char} (hname : '(' ∉ name)
    (hstripped : Text.Stripped name) (hinside : Text.Stripped inside) :
    splitArguments (name ++ '(' :: (inside ++ [')'])) = (name, some inside) := by
  have hspan : (name ++ '(' :: (inside ++ [')'])).span (· ≠ '(') =
      (name, '(' :: (inside ++ [')'])) :=
    Text.span_append (fun c hc => decide_eq_true fun he => hname (he ▸ hc)) (by simp)
  unfold splitArguments
  rw [hspan]
  simp only [List.getLast?_append, List.getLast?_singleton, Option.some_or, if_true,
    List.dropLast_concat, Text.stripBack_eq_self hstripped.back, hinside.stripChars_eq]

theorem isDigits_toString (n : Nat) : isDigits (toString n).toList = true := by
  unfold isDigits
  rw [Bool.and_eq_true, Bool.not_eq_true', List.isEmpty_eq_false_iff, List.all_eq_true]
  exact ⟨toString_ne_nil n, fun c hc => Text.isDigit_of_mem_toString hc⟩

theorem isNumberPair_toString (n : Nat) : isNumberPair (toString n).toList = false := by
  have hspan : (toString n).toList.span (· ≠ ',') = ((toString n).toList, []) := by
    refine Text.span_eq_self fun c hc => decide_eq_true ?_
    rintro rfl
    exact absurd (Text.isDigit_of_mem_toString hc) (by decide)
  unfold isNumberPair
  rw [hspan]

theorem toString_eq_one_iff {n : Nat} : (toString n).toList = ['1'] ↔ n = 1 := by
  constructor
  · intro h
    rw [← digitsValue_toString n, h]
    rfl
  · rintro rfl
    rfl

/-! ## The rules of the families -/

section

variable {type : String} {digits : List Char}

/-- A width is dropped, behind the type or beside it, unless it makes a truth value of the type. -/
theorem dorisTypeOf?_width (h : type ∈ widthTypes) (hdigits : isDigits digits = true) (n : UInt32) :
    Column.dorisTypeOf? none type (some digits) =
        some (if type = "TINYINT" ∧ digits = ['1'] then "BOOLEAN" else type) ∧
      Column.dorisTypeOf? (some n) type none =
        if type = "TINYINT" ∧ n = 1 then some "BOOLEAN" else none := by
  simp only [widthTypes, List.mem_cons, List.not_mem_nil, or_false] at h
  rcases h with rfl | rfl | rfl | rfl | rfl
  case inr.inr.inl =>
    by_cases hone : digits = ['1']
    · subst hone
      simp [Column.dorisTypeOf?]
    · simp [Column.dorisTypeOf?, hone, hdigits]
  all_goals simp [Column.dorisTypeOf?, hdigits]

theorem dorisTypeOf?_time (h : type ∈ timeTypes) (hdigits : isDigits digits = true)
    (length : Option UInt32) :
    Column.dorisTypeOf? none type (some digits) = some "DATETIME" ∧
      Column.dorisTypeOf? length type none = some "DATETIME" := by
  simp only [timeTypes, List.mem_cons, List.not_mem_nil, or_false] at h
  rcases h with rfl | rfl
  all_goals simp [Column.dorisTypeOf?, hdigits]

theorem dorisTypeOf?_sized (h : type ∈ sizedTypes) (length : Option UInt32) :
    Column.dorisTypeOf? length type (some digits) = none := by
  simp only [sizedTypes, List.mem_cons, List.not_mem_nil, or_false] at h
  rcases h with rfl | rfl | rfl
  all_goals simp [Column.dorisTypeOf?]

/-- A single number stays behind such a type, while the type alone has no arguments in Doris. -/
theorem dorisTypeOf?_kept (h : type ∈ keptArguments) (hpair : isNumberPair digits = false)
    (length : Option UInt32) :
    Column.dorisTypeOf? none type (some digits) = none ∧
      (Column.dorisTypeOf? length type none).getD type ∈ dorisTypes := by
  simp only [keptArguments, List.mem_cons, List.not_mem_nil, or_false] at h
  rcases h with rfl | rfl | rfl | rfl | rfl | rfl
  all_goals simp [Column.dorisTypeOf?, hpair, dorisTypes]

end

theorem normalized_argumentTypes : ∀ type ∈ argumentTypes,
    Text.Normalized type ∧ '(' ∉ type.toList := by decide

/-! ## The rule for either form -/

namespace Column

variable {base : String}

theorem typeText_behind (h : Text.asciiUpper base ∈ argumentTypes) (c : Column) (n : Nat) :
    (c.retyped s!"{base}({n})").typeText = s!"{Text.asciiUpper base}({n})" := by
  obtain ⟨hne, hletters⟩ := letters_of_mem_argumentTypes h
  have hlength := (LengthText.length n).normalized
  have hascii : Text.IsAscii (base ++ s!"({n})") :=
    .append (fun c hc => toNat_lt_of_isAsciiLetter (hletters c hc)) hlength.ascii
  have hstrip : Text.strip (base ++ s!"({n})") = base ++ s!"({n})" := by
    have hstripped := (isTypeName_of_letters hne hletters).stripped.append hlength.stripped
    rw [Text.strip, String.toList_append, hstripped.stripChars_eq, ← String.toList_append,
      String.ofList_toList]
  rw [cell_eq, cell_eq, typeText_retyped, hstrip, Text.upper_of_isAscii hascii,
    Text.asciiUpper_append, hlength.upper]

/-- A number beside the name is written for some types only. -/
theorem typeText_beside (h : Text.asciiUpper base ∈ argumentTypes) (c : Column) {n : UInt32}
    (hn : n ≠ 0) :
    { c.retyped base with length := some n }.typeText =
      if Text.asciiUpper base ∈ sizedTypes then s!"{Text.asciiUpper base}({n.toNat})"
      else Text.asciiUpper base := by
  obtain ⟨hne, hletters⟩ := letters_of_mem_argumentTypes h
  have hupper : Text.upper (Text.strip base) = Text.asciiUpper base := by
    rw [Text.strip, (isTypeName_of_letters hne hletters).stripped.stripChars_eq,
      String.ofList_toList]
    exact Text.upper_of_isAscii fun c hc => toNat_lt_of_isAsciiLetter (hletters c hc)
  have hlength : positive? (some n) = some n := by simp [positive?, hn]
  have hscale : positive? none = none := rfl
  have hfamily : ∀ type ∈ argumentTypes, hasArguments type.toList = false ∧
      type ∉ ["VARBINARY", "BINARY", "NUMERIC", "TIME"] := by decide
  unfold typeText retyped
  simp only [hupper, hlength, hscale]
  generalize Text.asciiUpper base = type at h
  obtain ⟨hplain, hother⟩ := hfamily type h
  rw [hplain, cell_eq]
  simp only [Bool.false_eq_true, if_false]
  split
  case h_1 | h_2 | h_5 | h_7 | h_8 => rfl
  case h_3 | h_4 | h_6 | h_9 => exact absurd (by decide) hother
  case h_10 hvarchar hchar _ _ hdecimal _ _ _ _ =>
    have hsized : type ∉ sizedTypes := by
      simp only [sizedTypes, List.mem_cons, List.not_mem_nil, or_false, not_or]
      exact ⟨hvarchar, hchar, hdecimal⟩
    rw [if_neg hsized, String.append_empty]

/-- **With a number behind the name, the rule gets the name and the number,** -/
theorem dorisType_behind (h : Text.asciiUpper base ∈ argumentTypes) (c : Column) (n : Nat) :
    (c.retyped s!"{base}({n})").dorisType =
      (dorisTypeOf? none (Text.asciiUpper base) (some (toString n).toList)).getD
        s!"{Text.asciiUpper base}({n})" := by
  obtain ⟨hnormalized, hopen⟩ := normalized_argumentTypes _ h
  rw [dorisType_eq, typeText_behind h, dorisRule?, toList_cell,
    splitArguments_append hopen hnormalized.stripped (stripped_toString n), String.ofList_toList]
  rfl

/-- **and with a number beside the name, the name alone,** unless the number is written behind it. -/
theorem dorisType_beside (h : Text.asciiUpper base ∈ argumentTypes)
    (hsized : Text.asciiUpper base ∉ sizedTypes) (c : Column) {n : UInt32} (hn : n ≠ 0) :
    { c.retyped base with length := some n }.dorisType =
      (dorisTypeOf? (some n) (Text.asciiUpper base) none).getD (Text.asciiUpper base) := by
  obtain ⟨-, hopen⟩ := normalized_argumentTypes _ h
  rw [dorisType_eq, typeText_beside h c hn, if_neg hsized, dorisRule?, splitArguments_name hopen,
    String.ofList_toList]

theorem dorisType_beside_sized (hsized : Text.asciiUpper base ∈ sizedTypes) (c : Column)
    {n : UInt32} (hn : n ≠ 0) :
    { c.retyped base with length := some n }.dorisType = s!"{Text.asciiUpper base}({n.toNat})" := by
  have h : Text.asciiUpper base ∈ argumentTypes := by
    simp only [argumentTypes, List.mem_append]
    exact .inl (.inr hsized)
  obtain ⟨hnormalized, hopen⟩ := normalized_argumentTypes _ h
  rw [dorisType_eq, typeText_beside h c hn, if_pos hsized, dorisRule?, toList_cell,
    splitArguments_append hopen hnormalized.stripped (stripped_toString n.toNat),
    String.ofList_toList, dorisTypeOf?_sized hsized]
  exact Option.getD_none

/-- **Both forms convert alike where the rules know the argument,** -/
theorem dorisType_behind_eq_beside
    (h : Text.asciiUpper base ∈ widthTypes ++ timeTypes ++ sizedTypes) (c : Column) {n : UInt32}
    (hn : n ≠ 0) :
    (c.retyped s!"{base}({n.toNat})").dorisType =
      { c.retyped base with length := some n }.dorisType := by
  have htypes : Text.asciiUpper base ∈ argumentTypes := List.mem_append_left _ h
  have hunsized : ∀ type ∈ widthTypes ++ timeTypes, type ∉ sizedTypes := by decide
  have hdigits := isDigits_toString n.toNat
  rw [dorisType_behind htypes]
  rcases List.mem_append.1 h with hunwritten | hsized
  · rw [dorisType_beside htypes (hunsized _ hunwritten) c hn]
    rcases List.mem_append.1 hunwritten with hwidth | htime
    · have hone : n.toNat = 1 ↔ n = 1 := UInt32.toNat_inj (a := n) (b := 1)
      obtain ⟨hbehind, hbeside⟩ := dorisTypeOf?_width hwidth hdigits n
      rw [hbehind, hbeside]
      simp only [toString_eq_one_iff, hone]
      split <;> rfl
    · obtain ⟨hbehind, hbeside⟩ := dorisTypeOf?_time htime hdigits (some n)
      rw [hbehind, hbeside, Option.getD_some, Option.getD_some]
  · rw [dorisType_beside_sized hsized c hn, dorisTypeOf?_sized hsized, Option.getD_none]

/-- **and never where the argument is kept:** beside the name it is dropped. -/
theorem dorisType_behind_ne_beside (h : Text.asciiUpper base ∈ keptArguments) (c : Column)
    {n : UInt32} (hn : n ≠ 0) :
    (c.retyped s!"{base}({n.toNat})").dorisType ≠
      { c.retyped base with length := some n }.dorisType := by
  have htypes : Text.asciiUpper base ∈ argumentTypes := List.mem_append_right _ h
  have hunsized : ∀ type ∈ keptArguments, type ∉ sizedTypes := by decide
  have hplain : ∀ type ∈ dorisTypes, '(' ∉ type.toList := by decide
  obtain ⟨hbehind, hbeside⟩ := dorisTypeOf?_kept h (isNumberPair_toString n.toNat) (some n)
  rw [dorisType_behind htypes, dorisType_beside htypes (hunsized _ h) c hn, hbehind,
    Option.getD_none]
  intro heq
  refine hplain _ hbeside ?_
  rw [← heq, toList_cell]
  simp

/-- **A type converts alike in both forms of its argument, unless it is one that keeps it.** A cell
with the argument behind the name gives a column with the argument beside it. -/
theorem arguments_convert_alike_iff (h : Text.asciiUpper base ∈ argumentTypes) {n : UInt32}
    (hn : n ≠ 0) (c : Column) :
    Column.ofCells c.name s!"{base}({n.toNat})" =
        { name := c.name, typeName := base, length := some n } ∧
      ((c.retyped s!"{base}({n.toNat})").dorisType =
          { c.retyped base with length := some n }.dorisType ↔
        Text.asciiUpper base ∉ keptArguments) := by
  refine ⟨?_, fun heq hkept => dorisType_behind_ne_beside hkept c hn heq, fun hkept => ?_⟩
  · obtain ⟨hne, hletters⟩ := letters_of_mem_argumentTypes h
    unfold ofCells
    rw [splitPrecision?_length (isTypeName_of_letters hne hletters)]
  · rcases List.mem_append.1 h with hknown | hmem
    · exact dorisType_behind_eq_beside hknown c hn
    · exact absurd hmem hkept

/-- The largest length, with the name in letters of both cases. -/
theorem arguments_convert_alike_varchar :
    let c : Column := { name := "c", typeName := "" }
    (Text.asciiUpper "VarChar" ∈ argumentTypes ∧ (4294967295 : UInt32) ≠ 0) ∧
      Column.ofCells "c" "VarChar(4294967295)" =
        { name := "c", typeName := "VarChar", length := some 4294967295 } ∧
      ((c.retyped "VarChar(4294967295)").dorisType =
          { c.retyped "VarChar" with length := some 4294967295 }.dorisType ↔
        Text.asciiUpper "VarChar" ∉ keptArguments) := by
  intro c
  have htype : Text.asciiUpper "VarChar" ∈ argumentTypes := by decide
  exact ⟨⟨htype, by decide⟩, arguments_convert_alike_iff htype (n := 4294967295) (by decide) c⟩

/-- A text type with a length is one text type in a cell and another one behind the name. -/
theorem text_argument_kept :
    let c : Column := { name := "c", typeName := "TEXT(255)" }
    Column.ofCells "c" "TEXT(255)" = { name := "c", typeName := "TEXT", length := some 255 } ∧
      c.dorisType = "TEXT(255)" ∧ (Column.ofCells "c" "TEXT(255)").dorisType = "STRING" := by
  decide +kernel

end Column

end TableSql
