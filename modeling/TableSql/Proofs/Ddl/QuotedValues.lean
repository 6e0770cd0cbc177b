import TableSql.Proofs.Ddl.Quotes
import TableSql.Proofs.Grid.TypeCell
import TableSql.Proofs.Text.Gaps

/-!
# Quoted values in a type

An enumeration lists its values between single quotes inside the type. In a definition a type stands
in upper case as a whole, and so do these values.

* `Quotation.upper`, `Scan.upper` — a quoted part and a scan with the letters `a`–`z` in upper case.
* `quotedValues?` — the values that stand between single quotes in a type.
* `enumeration` — a type that lists some values.

Principal results: `step_upper`, `run_upper` (a scan of a text in upper case does what a scan of the
text does), and from them the values in the type of a definition, for a column as well as for a type
cell.
-/

set_option autoImplicit false

namespace TableSql

/-! ## Upper case -/

/-- A quoted part with the letters `a`–`z` in upper case. -/
def Quotation.upper : Quotation → Quotation
  | name s => name (Text.asciiUpper s)
  | text s => text (Text.asciiUpper s)

theorem Quotation.names_map_upper (parts : List Quotation) :
    names (parts.map upper) = (names parts).map Text.asciiUpper := by
  induction parts with
  | nil => rfl
  | cons part parts ih =>
    cases part with
    | name s => exact congrArg (Text.asciiUpper s :: ·) ih
    | text s => exact ih

theorem QuotationKind.part_upper (kind : QuotationKind) (read : List Char) :
    (kind.part read).upper = kind.part (read.map Char.toUpper) := by
  cases kind <;> simp only [part, Quotation.upper, Text.asciiUpper, String.toList_ofList]

/-- The place of a scan of the same text in upper case. -/
def ScanPlace.upper : ScanPlace → ScanPlace
  | outside => outside
  | inside kind read => inside kind (read.map Char.toUpper)
  | behind kind read => behind kind (read.map Char.toUpper)

namespace Scan

variable {nameQuote : Char}

/-- A scan of the same text in upper case. -/
def upper (s : Scan) : Scan := ⟨s.place.upper, s.parts.map Quotation.upper⟩

theorem parts?_upper (s : Scan) : s.upper.parts? = s.parts?.map (List.map Quotation.upper) := by
  obtain ⟨place, parts⟩ := s
  cases place with
  | outside => rfl
  | inside kind read => rfl
  | behind kind read =>
    simp only [upper, ScanPlace.upper, parts?, Option.map_some, List.map_append, List.map_cons,
      List.map_nil, QuotationKind.part_upper]

section Mark

variable (hmark : ∀ c : Char, c.toUpper = nameQuote ↔ c = nameQuote)

include hmark

theorem toUpper_eq_mark_iff (kind : QuotationKind) (c : Char) :
    c.toUpper = kind.mark nameQuote ↔ c = kind.mark nameQuote := by
  cases kind with
  | name => exact hmark c
  | text => exact Text.toUpper_eq_iff (m := '\'') (by decide) (by decide)

theorem stepOutside_upper (parts : List Quotation) (c : Char) :
    (stepOutside nameQuote parts c).upper =
      stepOutside nameQuote (parts.map Quotation.upper) c.toUpper := by
  have hname := toUpper_eq_mark_iff hmark .name c
  have htext := toUpper_eq_mark_iff hmark .text c
  simp only [QuotationKind.mark] at hname htext
  unfold stepOutside
  simp only [hname, htext]
  split
  · rfl
  · split <;> rfl

theorem step_upper (s : Scan) (c : Char) :
    (s.step nameQuote c).upper = s.upper.step nameQuote c.toUpper := by
  obtain ⟨place, parts⟩ := s
  cases place with
  | outside => exact stepOutside_upper hmark parts c
  | inside kind read =>
    have hkind := toUpper_eq_mark_iff hmark kind c
    by_cases hc : c = kind.mark nameQuote
    · simp only [step, upper, ScanPlace.upper, if_pos hc, if_pos (hkind.2 hc)]
    · simp only [step, upper, ScanPlace.upper, if_neg hc, if_neg (mt hkind.1 hc), List.map_append,
        List.map_cons, List.map_nil]
  | behind kind read =>
    have hkind := toUpper_eq_mark_iff hmark kind c
    by_cases hc : c = kind.mark nameQuote
    · simp only [step, upper, ScanPlace.upper, if_pos hc, if_pos (hkind.2 hc), List.map_append,
        List.map_cons, List.map_nil]
    · -- the part ends before this character, which is read as one outside the quotes
      simp only [step, if_neg hc]
      rw [stepOutside_upper hmark, List.map_append, List.map_cons, List.map_nil,
        QuotationKind.part_upper]
      simp only [upper, ScanPlace.upper, if_neg (mt hkind.1 hc)]

theorem run_upper (cs : List Char) (s : Scan) :
    (s.run nameQuote cs).upper = s.upper.run nameQuote (cs.map Char.toUpper) := by
  induction cs generalizing s with
  | nil => rfl
  | cons c cs ih => rw [List.map_cons, run_cons, run_cons, ih, step_upper hmark]

/-- **The quoted parts of a text in upper case are those of the text, in upper case.** -/
theorem scan?_asciiUpper (s : String) :
    scan? nameQuote (Text.asciiUpper s) = (scan? nameQuote s).map (List.map Quotation.upper) := by
  rw [scan?, scan?, Text.toList_asciiUpper, ← parts?_upper, run_upper hmark]
  rfl

end Mark

end Scan

/-! ## Values in a type -/

/-- The values that stand between single quotes in a type, a doubled quote inside standing for one;
none if the last one is left open. The scan takes the single quote for the quote around names, too,
so that it knows no other mark. -/
def quotedValues? (type : String) : Option (List String) := (scan? '\'' type).map Quotation.names

/-- A type that lists some values. -/
def enumeration (base : String) (values : List String) : String :=
  base ++ "(" ++ ",".intercalate (values.map quoteText) ++ ")"

section Values

variable {s : String}

theorem unquoted_iff : Unquoted '\'' s ↔ '\'' ∉ s.toList := and_self_iff

theorem quotedValues?_plain (h : '\'' ∉ s.toList) : quotedValues? s = some [] := by
  rw [quotedValues?, (unquoted_iff.2 h).yields.scan?_eq]
  rfl

theorem quotedValues?_append_plain {behind : String} (h : '\'' ∉ behind.toList) :
    quotedValues? (s ++ behind) = quotedValues? s := by
  rw [quotedValues?, scan?_append_plain s (unquoted_iff.2 h), quotedValues?]

theorem quotedValues?_asciiUpper (s : String) :
    quotedValues? (Text.asciiUpper s) = (quotedValues? s).map (List.map Text.asciiUpper) := by
  have hmark (c : Char) : c.toUpper = '\'' ↔ c = '\'' :=
    Text.toUpper_eq_iff (by decide) (by decide)
  rw [quotedValues?, quotedValues?, Scan.scan?_asciiUpper hmark, Option.map_map, Option.map_map]
  exact congrArg (Option.map · _) (funext Quotation.names_map_upper)

theorem quotedValues?_strip (s : String) : quotedValues? (Text.strip s) = quotedValues? s := by
  have hplain {cs : List Char} (h : Text.AllBlank cs) : Unquoted '\'' (String.ofList cs) := by
    rw [unquoted_iff, String.toList_ofList]
    exact fun hquote => absurd (h _ hquote) (by decide)
  obtain ⟨before, after, hbefore, hafter, hs⟩ := Text.Padded.stripChars s.toList
  have hparts : s = String.ofList before ++ (Text.strip s ++ String.ofList after) := by
    rw [← String.toList_inj]
    simpa [Text.strip] using hs
  rw [quotedValues?, quotedValues?]
  nth_rewrite 2 [hparts]
  rw [scan?_plain_append (hplain hbefore), scan?_append_plain _ (hplain hafter)]

/-- **The values that a type lists are read back from it.** -/
theorem quotedValues?_enumeration {base : String} (hbase : '\'' ∉ base.toList)
    (values : List String) : quotedValues? (enumeration base values) = some values := by
  have hvalues : List.Forall₂ (YieldsBehind '\'') (values.map quoteText)
      (values.map fun value => [.name value]) := by
    refine Text.forall₂_map_map.2 fun value _ lead hlead hne => ?_
    have hpart := yields_enclosed .name nofun hlead hne value
    rwa [QuotationKind.part, String.ofList_toList] at hpart
  have hopen : Unquoted '\'' (base ++ "(") := (unquoted_iff.2 hbase).append (by decide)
  have hcomma : Unquoted '\'' "," := by decide
  have hlist := YieldsBehind.intercalate hcomma (by decide) hvalues _ hopen (by simp)
  have hclose : Unquoted '\'' ")" := by decide
  rw [← List.flatMap_def, ← List.map_eq_flatMap] at hlist
  rw [quotedValues?, enumeration, (hlist.append_plain hclose).scan?_eq, Option.map_some,
    Quotation.names_map_name]

end Values

/-! ## Types of a dialect -/

theorem TypeCategory.typeKey_of_isInteger {type : String} (h : (ofType type).isInteger = true) :
    typeKey type ∈ ["int", "integer", "bigint", "smallint", "mediumint", "tinyint"] := by
  unfold ofType at h
  split at h
  case h_1 hkey | h_2 hkey | h_3 hkey | h_4 hkey | h_5 hkey | h_6 hkey =>
    rw [hkey]
    decide
  all_goals cases h

theorem unquoted_of_isInteger {type : String}
    (h : (TypeCategory.ofType type).isInteger = true) : '\'' ∉ type.toList := by
  intro hquote
  have hstrip : '\'' ∈ (Text.strip type).toList := by
    rw [Text.strip, String.toList_ofList]
    exact ((Text.Padded.stripChars type.toList).mem_iff (by decide)).1 hquote
  have hkey : '\'' ∈ (TypeCategory.typeKey type).toList := by
    rw [TypeCategory.typeKey, Text.asciiLower, String.toList_ofList]
    exact List.mem_map_of_mem (f := Char.toLower) hstrip
  have hnames : ∀ name ∈ ["int", "integer", "bigint", "smallint", "mediumint", "tinyint"],
      '\'' ∉ name.toList := by decide
  exact hnames _ (TypeCategory.typeKey_of_isInteger h) hkey

/-- **A dialect has other names only for types without values.** -/
theorem quotedValues?_typeName (d : Dialect) (isKey : Bool) (upper : String) :
    quotedValues? (d.typeName isKey upper) = quotedValues? upper := by
  rcases d.typeName_cases isKey upper with ⟨-, -, hinteger, hname⟩ | hother | hsame
  · rw [hname, quotedValues?_plain (by decide),
      quotedValues?_plain (unquoted_of_isInteger hinteger)]
  · have hplain : ∀ names ∈ Dialect.otherTypeNames,
        '\'' ∉ names.1.toList ∧ '\'' ∉ names.2.toList := by decide
    rw [quotedValues?_plain (hplain _ hother).2, quotedValues?_plain (hplain _ hother).1]
  · rw [hsame]

/-! ## Type cells -/

theorem PrecisionText.unquoted {cs : List Char} {n : Nat} {scale : Option Nat}
    (h : PrecisionText cs n scale) : '\'' ∉ cs := by
  have hnumber {inside digits : List Char} {n : Nat} (hinside : Text.Padded digits inside)
      (hdigits : Numeral digits n) : '\'' ∉ inside := by
    rw [hinside.mem_iff (by decide)]
    exact fun hquote => absurd (hdigits.chars _ hquote) (by decide)
  have hblank {behind : List Char} (h : Text.AllBlank behind) : '\'' ∉ behind :=
    fun hquote => absurd (h _ hquote) (by decide)
  cases h with
  | length hinside hdigits hbehind =>
    simp [hnumber hinside hdigits, hblank hbehind]
  | scale hinside hdigits hinside' hdigits' hbehind =>
    simp [hnumber hinside hdigits, hnumber hinside' hdigits', hblank hbehind]

theorem IsTypeName.unquoted {name : String} (h : IsTypeName name) : '\'' ∉ name.toList :=
  fun hquote => absurd (h.chars _ hquote) (by decide)

theorem TypeCell.unquoted {cell name : String} {length : UInt32} {scale : Option UInt32}
    (h : TypeCell cell name length scale) : '\'' ∉ cell.toList := by
  obtain ⟨front, behind, hcell, hfront, hbehind⟩ := h.parts
  have hname : '\'' ∉ front := by
    rw [hfront.mem_iff (by decide)]
    exact h.isTypeName.unquoted
  simp [hcell, hname, hbehind.unquoted]

theorem ofCells_of_quote {cell : String} (h : '\'' ∈ cell.toList) (name : String) :
    Column.ofCells name cell = { name, typeName := cell } :=
  ofCells_eq_of_not_typeCell (fun _ _ _ hcell => hcell.unquoted h) name

theorem quotedValues?_typeName_ofCells (name cell : String) :
    quotedValues? (Column.ofCells name cell).typeName = quotedValues? cell := by
  by_cases h : ∃ typeName length scale, TypeCell cell typeName length scale
  · obtain ⟨typeName, length, scale, hcell⟩ := h
    rw [hcell.ofCells_eq, quotedValues?_plain hcell.isTypeName.unquoted,
      quotedValues?_plain hcell.unquoted]
  · simp only [not_exists] at h
    rw [ofCells_eq_of_not_typeCell h]

/-! ## Columns -/

namespace Column

theorem quotedValues?_fullType (d : Dialect) (c : Column) :
    quotedValues? (c.clauses d).fullType =
      (quotedValues? c.typeName).map (List.map Text.asciiUpper) := by
  have hlength : '\'' ∉ ((c.lengthClause d).getD "").toList :=
    ((c.lengthText_lengthClause d).unquoted (d := d)).2
  rw [fullType_clauses, quotedValues?_append_plain hlength, typeToken, quotedValues?_typeName,
    quotedValues?_asciiUpper, quotedValues?_strip]

/-- **The values in the type of a definition are those in the type of the column, in upper case,**
so that they are the same if and only if none of the letters `a`–`z` stands in them. Any values can
be listed in a type, and they get as far as this from a type cell, too. -/
theorem quotedValues_upper (d : Dialect) :
    (∀ c : Column,
      quotedValues? (c.clauses d).fullType =
        (quotedValues? c.typeName).map (List.map Text.asciiUpper) ∧
      (quotedValues? (c.clauses d).fullType = quotedValues? c.typeName ↔
        ∀ values ∈ quotedValues? c.typeName, ∀ value ∈ values,
          ∀ ch ∈ value.toList, ch.isLower = false)) ∧
    (∀ (c : Column) (base : String) (values : List String), '\'' ∉ base.toList →
      c.typeName = enumeration base values →
        quotedValues? c.typeName = some values ∧
        quotedValues? (c.clauses d).fullType = some (values.map Text.asciiUpper)) ∧
    (∀ name cell : String,
      ('\'' ∈ cell.toList → ofCells name cell = { name, typeName := cell }) ∧
      quotedValues? ((ofCells name cell).clauses d).fullType =
        (quotedValues? cell).map (List.map Text.asciiUpper)) := by
  refine ⟨fun c => ⟨quotedValues?_fullType d c, ?same⟩, ?listed, ?cells⟩
  case same =>
    rw [quotedValues?_fullType]
    cases quotedValues? c.typeName with
    | none => simp
    | some values =>
      simp only [Option.map_some, Option.some.injEq, Option.mem_def, forall_eq',
        ← Text.asciiUpper_eq_self_iff]
      nth_rewrite 2 [← List.map_id values]
      exact List.map_inj_left
  case listed =>
    intro c base values hbase htype
    have hvalues : quotedValues? c.typeName = some values := by
      rw [htype, quotedValues?_enumeration hbase]
    refine ⟨hvalues, ?_⟩
    rw [quotedValues?_fullType, hvalues, Option.map_some]
  case cells =>
    intro name cell
    refine ⟨fun hquote => ofCells_of_quote hquote name, ?_⟩
    rw [quotedValues?_fullType, quotedValues?_typeName_ofCells]

/-- An enumeration with small letters, a quote and a comma in its values. -/
theorem quotedValues_upper_sizes :
    let c : Column := { name := "size", typeName := "enum('small','it''s, XL')" }
    quotedValues? c.typeName = some ["small", "it's, XL"] ∧
      (c.clauses .mysql).fullType = "ENUM('SMALL','IT''S, XL')" ∧
      quotedValues? (c.clauses .mysql).fullType ≠ quotedValues? c.typeName ∧
      quotedValues? (c.clauses .doris).fullType ≠ quotedValues? c.typeName := by
  decide

end Column

end TableSql
