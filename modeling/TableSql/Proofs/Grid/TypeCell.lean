import TableSql.Grid.Extract
import TableSql.Proofs.Text.Ascii
import TableSql.Proofs.Text.Pieces

/-!
# Type cells that are cut into parts

The reader of a type cell goes by the first characters of a kind and by what is left behind them.
The form of the cells that it accepts is given here as a grammar, without an order of reading.

* `IsTypeName` — what may stand in front of the parenthesis of a type cell.
* `Numeral` — digits and the number that they stand for.
* `PrecisionText` — what may stand behind the parenthesis: one number or two.
* `TypeCell` — a cell with its name, length and scale.

Principal results: `paddedNumber?_append` and `padded_of_paddedNumber?` (numbers are read from their
digits and from nothing else), `precision?_eq_some_iff`, `splitPrecision?_eq_some_iff` (a cell is
cut into parts exactly if it has the form), and from them that a cell has one form at most and every
other one is kept whole.
-/

set_option autoImplicit false

namespace TableSql

open Text (AllBlank Padded)

/-! ## Numbers -/

/-- Decimal digits and the number that they stand for; zeros in front are allowed. -/
structure Numeral (digits : List Char) (n : Nat) : Prop where
  ne_nil : digits ≠ []
  chars : ∀ c ∈ digits, c.isDigit = true
  value : Nat.ofDigitChars 10 digits 0 = n

instance (digits : List Char) (n : Nat) : Decidable (Numeral digits n) :=
  decidable_of_iff
    (digits ≠ [] ∧ digits.all Char.isDigit = true ∧ Nat.ofDigitChars 10 digits 0 = n)
    ⟨fun h => ⟨h.1, List.all_eq_true.1 h.2.1, h.2.2⟩,
      fun h => ⟨h.ne_nil, List.all_eq_true.2 h.chars, h.value⟩⟩

theorem digitsValue_eq (digits : List Char) :
    digitsValue digits = Nat.ofDigitChars 10 digits 0 := by
  have hstep : (fun value (d : Char) => value * 10 + (d.toNat - 48)) =
      fun value d => 10 * value + (d.toNat - '0'.toNat) := by
    funext value d
    rw [Nat.mul_comm]
    rfl
  unfold digitsValue
  rw [hstep]
  rfl

theorem toString_ne_nil (n : Nat) : (toString n).toList ≠ [] := by
  rw [Nat.toString_eq_repr, Nat.toList_repr]
  exact Nat.toDigits_ne_nil

/-- **A number is what its digits stand for.** -/
theorem numeral_toString (n : Nat) : Numeral (toString n).toList n := by
  refine ⟨toString_ne_nil n, fun _ hc => Text.isDigit_of_mem_toString hc, ?_⟩
  rw [Nat.toString_eq_repr, Nat.toList_repr, Nat.ofDigitChars_ten_toDigits]

theorem digitsValue_toString (n : Nat) : digitsValue (toString n).toList = n := by
  rw [digitsValue_eq, (numeral_toString n).value]

theorem stripped_toString (n : Nat) : Text.Stripped (toString n).toList :=
  .of_forall fun _ hc => Text.isBlank_of_isDigit (Text.isDigit_of_mem_toString hc)

theorem word32?_eq_some_iff {n : Nat} {w : UInt32} : word32? n = some w ↔ n = w.toNat := by
  unfold word32?
  constructor
  · intro h
    split at h
    · rename_i hn
      obtain rfl := Option.some.inj h
      exact (UInt32.toNat_ofNat_of_lt hn).symm
    · cases h
  · rintro rfl
    rw [if_pos w.toNat_lt, UInt32.ofNat_toNat]

/-! ## Runs of characters -/

theorem Text.span_append {p : Char → Bool} {run rest : List Char} (hrun : ∀ c ∈ run, p c = true)
    (hrest : ∀ c, rest.head? = some c → p c = false) : (run ++ rest).span p = (run, rest) := by
  rw [List.span_eq_takeWhile_dropWhile, List.takeWhile_append_of_pos hrun,
    List.dropWhile_append_of_pos hrun]
  cases rest with
  | nil => simp
  | cons c rest =>
    have hc := hrest c rfl
    simp [hc]

theorem Text.span_eq_self {p : Char → Bool} {run : List Char} (hrun : ∀ c ∈ run, p c = true) :
    run.span p = (run, []) := by
  have hend : ∀ c, ([] : List Char).head? = some c → p c = false := by simp
  have := Text.span_append hrun hend
  rwa [List.append_nil] at this

/-- **A number is read from its digits, whatever white space stands around them,** in front of
anything that goes on with neither white space nor a digit, -/
theorem paddedNumber?_append {inside digits rest : List Char} {n : Nat}
    (hinside : Padded digits inside) (hdigits : Numeral digits n)
    (hrest : ∀ c, rest.head? = some c → Text.isBlank c = false ∧ c.isDigit = false) :
    paddedNumber? (inside ++ rest) = some (n, rest) := by
  obtain ⟨before, after, hbefore, hafter, rfl⟩ := hinside
  have hfront : Text.stripFront (before ++ (digits ++ after) ++ rest) =
      digits ++ (after ++ rest) := by
    rw [List.append_assoc, List.append_assoc, Text.stripFront_append hbefore]
    refine Text.stripFront_eq_self fun c hc => ?_
    rw [List.head?_append_of_ne_nil _ hdigits.ne_nil] at hc
    exact Text.isBlank_of_isDigit (hdigits.chars c (List.mem_of_head? hc))
  have hend : ∀ c, (after ++ rest).head? = some c → c.isDigit = false := by
    intro c hc
    cases after with
    | nil => exact (hrest c hc).2
    | cons d after =>
      obtain rfl : d = c := Option.some.inj hc
      have hblank := hafter d List.mem_cons_self
      rw [← Bool.not_eq_true]
      intro hdigit
      rw [Text.isBlank_of_isDigit hdigit] at hblank
      cases hblank
  have hback : Text.stripFront (after ++ rest) = rest := by
    rw [Text.stripFront_append hafter]
    exact Text.stripFront_eq_self fun c hc => (hrest c hc).1
  unfold paddedNumber?
  rw [hfront, Text.span_append hdigits.chars hend]
  simp only [List.isEmpty_iff, hdigits.ne_nil, if_false, digitsValue_eq, hdigits.value, hback]

/-- **and from nothing else.** -/
theorem padded_of_paddedNumber? {cs rest : List Char} {n : Nat}
    (h : paddedNumber? cs = some (n, rest)) :
    ∃ inside digits, cs = inside ++ rest ∧ Padded digits inside ∧ Numeral digits n := by
  obtain ⟨before, hbefore, hcs⟩ := Text.exists_append_stripFront cs
  obtain ⟨after, hafter, hrest⟩ :=
    Text.exists_append_stripFront ((Text.stripFront cs).dropWhile Char.isDigit)
  unfold paddedNumber? at h
  rw [List.span_eq_takeWhile_dropWhile] at h
  simp only [List.isEmpty_iff] at h
  split at h
  · cases h
  rename_i hne
  rw [Option.some.injEq, Prod.mk.injEq] at h
  obtain ⟨hvalue, hback⟩ := h
  refine ⟨before ++ ((Text.stripFront cs).takeWhile Char.isDigit ++ after), _, ?_,
    ⟨before, after, hbefore, hafter, rfl⟩, hne, List.all_eq_true.1 List.all_takeWhile, ?_⟩
  · rw [List.append_assoc, List.append_assoc, ← hback, ← hrest, List.takeWhile_append_dropWhile]
    exact hcs
  · rw [← digitsValue_eq]
    exact hvalue

/-! ## Lengths and scales -/

/-- What may stand behind the opening parenthesis of a type cell: one number or two, with white
space around each, and only white space behind the closing parenthesis. -/
inductive PrecisionText : List Char → Nat → Option Nat → Prop where
  | length {inside digits behind : List Char} {n : Nat} : Padded digits inside →
      Numeral digits n → AllBlank behind → PrecisionText (inside ++ ')' :: behind) n none
  | scale {inside digits inside' digits' behind : List Char} {n m : Nat} : Padded digits inside →
      Numeral digits n → Padded digits' inside' → Numeral digits' m → AllBlank behind →
      PrecisionText (inside ++ ',' :: (inside' ++ ')' :: behind)) n (some m)

theorem precisionText_of_precision? {cs : List Char} {n : Nat} {scale : Option Nat}
    (h : precision? cs = some (n, scale)) : PrecisionText cs n scale := by
  unfold precision? at h
  simp only [Option.bind_eq_bind, Option.bind_eq_some_iff] at h
  obtain ⟨⟨length, rest⟩, hlength, h⟩ := h
  obtain ⟨inside, digits, rfl, hinside, hdigits⟩ := padded_of_paddedNumber? hlength
  simp only at h
  split at h
  · -- a comma goes on with the scale
    simp only [Option.bind_eq_some_iff, Option.map_eq_some_iff] at h
    obtain ⟨_, ⟨⟨m, rest⟩, hm, rfl⟩, h⟩ := h
    obtain ⟨inside', digits', rfl, hinside', hdigits'⟩ := padded_of_paddedNumber? hm
    simp only at h
    split at h
    · split at h
      · rename_i hbehind
        cases h
        exact .scale hinside hdigits hinside' hdigits' (List.all_eq_true.1 hbehind)
      · cases h
    · cases h
  · simp only [Option.bind_some] at h
    split at h
    · split at h
      · rename_i hbehind
        cases h
        exact .length hinside hdigits (List.all_eq_true.1 hbehind)
      · cases h
    · cases h

theorem PrecisionText.precision?_eq {cs : List Char} {n : Nat} {scale : Option Nat}
    (h : PrecisionText cs n scale) : precision? cs = some (n, scale) := by
  have hclose (behind : List Char) (c : Char) (hc : (')' :: behind).head? = some c) :
      Text.isBlank c = false ∧ c.isDigit = false := by
    obtain rfl := Option.some.inj hc
    decide
  have hcomma (behind : List Char) (c : Char) (hc : (',' :: behind).head? = some c) :
      Text.isBlank c = false ∧ c.isDigit = false := by
    obtain rfl := Option.some.inj hc
    decide
  unfold precision?
  cases h with
  | length hinside hdigits hbehind =>
    rw [paddedNumber?_append hinside hdigits (hclose _)]
    exact if_pos (List.all_eq_true.2 hbehind)
  | scale hinside hdigits hinside' hdigits' hbehind =>
    rw [paddedNumber?_append hinside hdigits (hcomma _)]
    simp only [Option.bind_eq_bind, Option.bind_some, Option.map_some,
      paddedNumber?_append hinside' hdigits' (hclose _)]
    exact if_pos (List.all_eq_true.2 hbehind)

/-- **The numbers of a cell are read exactly from such a text.** -/
theorem precision?_eq_some_iff {cs : List Char} {n : Nat} {scale : Option Nat} :
    precision? cs = some (n, scale) ↔ PrecisionText cs n scale :=
  ⟨precisionText_of_precision?, PrecisionText.precision?_eq⟩

/-! ## Names -/

theorem toNat_lt_of_isAsciiLetter {c : Char} (h : isAsciiLetter c = true) : c.toNat < 128 := by
  have hz : 'z'.val.toNat = 122 := rfl
  have hZ : 'Z'.val.toNat = 90 := rfl
  have hn : c.toNat = c.val.toNat := rfl
  simp only [isAsciiLetter, Bool.or_eq_true, Bool.and_eq_true, decide_eq_true_eq, Char.le_def,
    UInt32.le_iff_toNat_le] at h
  omega

theorem isBlank_of_isAsciiLetter {c : Char} (h : isAsciiLetter c = true) : Text.isBlank c = false :=
  Text.forall_ascii (p := fun c => isAsciiLetter c = true → Text.isBlank c = false) (by decide)
    (toNat_lt_of_isAsciiLetter h) h

/-- What may stand in front of the parenthesis of a type cell: letters, digits, underscores and
spaces, with a letter in front and no space at the end. -/
structure IsTypeName (name : String) : Prop where
  first : ∃ c, name.toList.head? = some c ∧ isAsciiLetter c = true
  chars : ∀ c ∈ name.toList, isTypeNameChar c = true
  stripped : Text.Stripped name.toList

instance (name : String) : Decidable (IsTypeName name) :=
  decidable_of_iff
    (name.toList.head?.any isAsciiLetter = true ∧ name.toList.all isTypeNameChar = true ∧
      Text.Stripped name.toList)
    ⟨fun h => ⟨(Option.any_eq_true _ _).1 h.1, List.all_eq_true.1 h.2.1, h.2.2⟩,
      fun h => ⟨(Option.any_eq_true _ _).2 h.first, List.all_eq_true.2 h.chars, h.stripped⟩⟩

namespace IsTypeName

variable {name : String}

theorem ne_empty (h : IsTypeName name) : name ≠ "" := by
  obtain ⟨c, hc, -⟩ := h.first
  rintro rfl
  cases hc

theorem no_parenthesis (h : IsTypeName name) : '(' ∉ name.toList ∧ ')' ∉ name.toList :=
  ⟨fun hc => absurd (h.chars _ hc) (by decide), fun hc => absurd (h.chars _ hc) (by decide)⟩

end IsTypeName

/-- A run of such characters with a letter in front, without the white space behind it. -/
theorem isTypeName_stripBack {run : List Char} {first : Char} (hfirst : run.head? = some first)
    (hletter : isAsciiLetter first = true) (hrun : ∀ c ∈ run, isTypeNameChar c = true) :
    IsTypeName (String.ofList (Text.stripBack run)) := by
  have hbegins := Text.stripBack_isPrefix run
  have hblank : Text.isBlank first = false := isBlank_of_isAsciiLetter hletter
  have hne : Text.stripBack run ≠ [] := fun h => by
    rw [(Text.stripBack_eq_nil_iff run).1 h first (List.mem_of_head? hfirst)] at hblank
    cases hblank
  have hhead : (Text.stripBack run).head? = some first := by
    obtain ⟨c, cs, hcs⟩ := List.exists_cons_of_ne_nil hne
    obtain ⟨behind, hbehind⟩ := hbegins
    rw [← hbehind, hcs] at hfirst
    rw [hcs]
    exact hfirst
  refine ⟨?_, ?_, ?_⟩
  · rw [String.toList_ofList]
    exact ⟨first, hhead, hletter⟩
  · rw [String.toList_ofList]
    exact fun c hc => hrun c (hbegins.subset hc)
  · rw [String.toList_ofList]
    refine ⟨fun c hc => ?_, Text.getLast_stripBack run⟩
    rw [hhead, Option.some.injEq] at hc
    rwa [← hc]

/-- A name runs on into the spaces behind it, up to the parenthesis at most. -/
theorem span_name {name after behind : List Char} (hname : ∀ c ∈ name, isTypeNameChar c = true) :
    (name ++ (after ++ '(' :: behind)).span isTypeNameChar =
      (name ++ after.takeWhile isTypeNameChar,
        after.dropWhile isTypeNameChar ++ '(' :: behind) := by
  have happend : name ++ (after ++ '(' :: behind) =
      (name ++ after.takeWhile isTypeNameChar) ++
        (after.dropWhile isTypeNameChar ++ '(' :: behind) := by
    rw [List.append_assoc, ← List.append_assoc (after.takeWhile _), List.takeWhile_append_dropWhile]
  rw [happend]
  refine Text.span_append (fun c hc => ?_) (fun c hc => ?_)
  · rcases List.mem_append.1 hc with hc | hc
    · exact hname c hc
    · exact List.all_eq_true.1 List.all_takeWhile c hc
  · cases hdrop : after.dropWhile isTypeNameChar with
    | nil =>
      rw [hdrop] at hc
      obtain rfl : '(' = c := Option.some.inj hc
      decide
    | cons d rest =>
      rw [hdrop] at hc
      obtain rfl : d = c := Option.some.inj hc
      have hhead := List.head?_dropWhile_not isTypeNameChar after
      rw [hdrop] at hhead
      simpa using hhead

/-! ## Cells -/

/-- A cell with the name of a type, and behind it a length, or a length and a scale, in parentheses.
White space may stand anywhere but inside the name and the numbers, which fit 32 bits. -/
structure TypeCell (cell name : String) (length : UInt32) (scale : Option UInt32) : Prop where
  isTypeName : IsTypeName name
  parts : ∃ front behind, cell.toList = front ++ '(' :: behind ∧ Padded name.toList front ∧
    PrecisionText behind length.toNat (scale.map UInt32.toNat)

section TypeCell

variable {cell name : String} {length : UInt32} {scale : Option UInt32}

/-- What a cell is made of: white space, a run of the characters of names without the spaces at its
end, white space, and the rest. -/
theorem exists_cell_eq (cell : List Char) :
    ∃ before after, AllBlank before ∧ AllBlank after ∧
      cell = before ++
        (Text.stripBack ((Text.stripFront cell).takeWhile isTypeNameChar) ++ after) ++
        Text.stripFront ((Text.stripFront cell).dropWhile isTypeNameChar) := by
  obtain ⟨before, hbefore, hcell⟩ := Text.exists_append_stripFront cell
  obtain ⟨spaces, hspaces, hrun⟩ :=
    Text.exists_stripBack_append ((Text.stripFront cell).takeWhile isTypeNameChar)
  obtain ⟨gap, hgap, hrest⟩ :=
    Text.exists_append_stripFront ((Text.stripFront cell).dropWhile isTypeNameChar)
  refine ⟨before, spaces ++ gap, hbefore, List.forall_mem_append.2 ⟨hspaces, hgap⟩, ?_⟩
  calc cell
      = before ++ ((Text.stripFront cell).takeWhile isTypeNameChar ++
          (Text.stripFront cell).dropWhile isTypeNameChar) := by
        rw [List.takeWhile_append_dropWhile]
        exact hcell
    _ = before ++ ((Text.stripBack ((Text.stripFront cell).takeWhile isTypeNameChar) ++ spaces) ++
          (gap ++ Text.stripFront ((Text.stripFront cell).dropWhile isTypeNameChar))) := by
        rw [← hrun, ← hrest]
    _ = _ := by simp only [List.append_assoc]

theorem typeCell_of_splitPrecision? (h : splitPrecision? cell = some (name, length, scale)) :
    TypeCell cell name length scale := by
  obtain ⟨before, after, hbefore, hafter, hcell⟩ := exists_cell_eq cell.toList
  unfold splitPrecision? at h
  rw [List.span_eq_takeWhile_dropWhile] at h
  simp only [Option.bind_eq_bind, Option.bind_eq_some_iff] at h
  obtain ⟨first, hfirst, h⟩ := h
  split at h
  · cases h
  rename_i hletter
  rw [Bool.not_eq_true, Bool.not_eq_false'] at hletter
  have htype := isTypeName_stripBack hfirst hletter (List.all_eq_true.1 List.all_takeWhile)
  split at h
  · rename_i behind hopen
    simp only [Option.bind_eq_some_iff, Option.pure_def] at h
    obtain ⟨⟨n, m⟩, hprecision, w, hw, h⟩ := h
    have hparts : String.ofList (Text.stripBack
        ((Text.stripFront cell.toList).takeWhile isTypeNameChar)) = name ∧ w = length ∧
          m = scale.map UInt32.toNat := by
      cases m with
      | none =>
        cases h
        exact ⟨rfl, rfl, rfl⟩
      | some m =>
        simp only [Option.bind_eq_some_iff, Option.map_eq_some_iff, Option.some.injEq,
          Prod.mk.injEq] at h
        obtain ⟨_, ⟨v, hv, rfl⟩, hname, hlength, rfl⟩ := h
        exact ⟨hname, hlength, congrArg some (word32?_eq_some_iff.1 hv)⟩
    obtain ⟨rfl, rfl, rfl⟩ := hparts
    obtain rfl := word32?_eq_some_iff.1 hw
    rw [hopen] at hcell
    refine ⟨htype, _, behind, hcell, ⟨before, after, hbefore, hafter, ?_⟩,
      precision?_eq_some_iff.1 hprecision⟩
    rw [String.toList_ofList]
  · cases h

theorem TypeCell.splitPrecision?_eq (h : TypeCell cell name length scale) :
    splitPrecision? cell = some (name, length, scale) := by
  obtain ⟨hname, front, behind, hcell, ⟨before, after, hbefore, hafter, rfl⟩, hbehind⟩ := h
  obtain ⟨first, hfirst, hletter⟩ := hname.first
  have hfront : Text.stripFront cell.toList = name.toList ++ (after ++ '(' :: behind) := by
    rw [hcell, List.append_assoc, List.append_assoc, Text.stripFront_append hbefore]
    refine Text.stripFront_eq_self fun c hc => hname.stripped.front c ?_
    rw [List.head?_append, hfirst, Option.some_or] at hc
    exact hfirst.trans hc
  have hhead : (name.toList ++ after.takeWhile isTypeNameChar).head? = some first := by
    rw [List.head?_append, hfirst, Option.some_or]
  have hback : Text.stripBack (name.toList ++ after.takeWhile isTypeNameChar) = name.toList := by
    rw [Text.stripBack_append _ fun c hc => hafter c (List.takeWhile_subset _ hc)]
    exact Text.stripBack_eq_self hname.stripped.back
  have hopen : Text.stripFront (after.dropWhile isTypeNameChar ++ '(' :: behind) =
      '(' :: behind := by
    rw [Text.stripFront_append fun c hc => hafter c (List.dropWhile_subset _ hc)]
    rfl
  have hlength : word32? length.toNat = some length := word32?_eq_some_iff.2 rfl
  unfold splitPrecision?
  rw [hfront, span_name hname.chars]
  simp only [hhead, hletter, hopen, precision?_eq_some_iff.2 hbehind, hlength, hback,
    Option.bind_eq_bind, Option.bind_some, Bool.not_true, Bool.false_eq_true, if_false,
    String.ofList_toList]
  cases scale with
  | none => rfl
  | some m =>
    have hscale : word32? m.toNat = some m := word32?_eq_some_iff.2 rfl
    simp only [Option.map_some, hscale, Option.bind_some]
    rfl

/-- **A cell is cut into parts exactly if it has the form.** -/
theorem splitPrecision?_eq_some_iff :
    splitPrecision? cell = some (name, length, scale) ↔ TypeCell cell name length scale :=
  ⟨typeCell_of_splitPrecision?, TypeCell.splitPrecision?_eq⟩

theorem TypeCell.ofCells_eq (h : TypeCell cell name length scale) (column : String) :
    Column.ofCells column cell =
      { name := column, typeName := name, length := some length, scale } := by
  unfold Column.ofCells
  rw [h.splitPrecision?_eq]

theorem ofCells_eq_of_not_typeCell (h : ∀ name length scale, ¬ TypeCell cell name length scale)
    (column : String) : Column.ofCells column cell = { name := column, typeName := cell } := by
  unfold Column.ofCells
  cases hsplit : splitPrecision? cell with
  | none => rfl
  | some parts => exact absurd (typeCell_of_splitPrecision? hsplit) (h _ _ _)

end TypeCell

/-- **A type cell is cut into the parts that it is made of, and in no other way.** A cell of the
form has one name, one length and one scale, and these make the type of the column; any other cell
is the type's name as a whole. -/
theorem type_cells_cut (cell : String) :
    (∀ name length scale, splitPrecision? cell = some (name, length, scale) ↔
      TypeCell cell name length scale) ∧
    (∀ name length scale name' length' scale', TypeCell cell name length scale →
      TypeCell cell name' length' scale' → name = name' ∧ length = length' ∧ scale = scale') ∧
    (∀ name length scale, TypeCell cell name length scale → ∀ column, Column.ofCells column cell =
      { name := column, typeName := name, length := some length, scale }) ∧
    ((∀ name length scale, ¬ TypeCell cell name length scale) → ∀ column,
      Column.ofCells column cell = { name := column, typeName := cell }) := by
  refine ⟨fun _ _ _ => splitPrecision?_eq_some_iff, ?_, fun _ _ _ h => h.ofCells_eq,
    ofCells_eq_of_not_typeCell⟩
  intro name length scale name' length' scale' h h'
  have hboth := h.splitPrecision?_eq.symm.trans h'.splitPrecision?_eq
  simpa using hboth

/-- Spaces of several kinds and zeros in front, a number of 33 bits, and digits that are not those
of ASCII. -/
theorem type_cells_cut_spaced :
    TypeCell " double precision\t (\u3000007,2 )\n" "double precision" 7 (some 2) ∧
    Column.ofCells "price" " double precision\t (\u3000007,2 )\n" =
      { name := "price", typeName := "double precision", length := some 7, scale := some 2 } ∧
    (∀ name length scale, ¬ TypeCell "varchar(4294967296)" name length scale) ∧
    Column.ofCells "note" "varchar(4294967296)" =
      { name := "note", typeName := "varchar(4294967296)" } ∧
    Column.ofCells "size" "int(\u0663)" = { name := "size", typeName := "int(\u0663)" } := by
  have hname : IsTypeName "double precision" := by decide
  have hfront : Padded "double precision".toList " double precision\t ".toList :=
    ⟨[' '], "\t ".toList, by decide, by decide, by decide⟩
  have hlength : Padded "007".toList "\u3000007".toList :=
    ⟨['\u3000'], [], by decide, by decide, by decide⟩
  have hscale : Padded "2".toList "2 ".toList := ⟨[], [' '], by decide, by decide, by decide⟩
  have hcell : TypeCell " double precision\t (\u3000007,2 )\n" "double precision" 7 (some 2) :=
    ⟨hname, _, _, by decide, hfront,
      .scale hlength (by decide) hscale (by decide) (by decide : AllBlank ['\n'])⟩
  have hnone : ∀ cell, splitPrecision? cell = none →
      ∀ name length scale, ¬ TypeCell cell name length scale := by
    intro cell hcell name length scale h
    rw [((type_cells_cut cell).1 name length scale).2 h] at hcell
    cases hcell
  have hwide := hnone "varchar(4294967296)" (by decide +kernel)
  have hforeign := hnone "int(\u0663)" (by decide +kernel)
  exact ⟨hcell, (type_cells_cut _).2.2.1 _ _ _ hcell _, hwide,
    (type_cells_cut _).2.2.2 hwide _, (type_cells_cut _).2.2.2 hforeign _⟩

/-! ## Cells that are written -/

theorem cell_eq (name : String) (n : Nat) : s!"{name}({n})" = name ++ s!"({n})" := by
  change name ++ "(" ++ toString n ++ ")" = name ++ ("(" ++ toString n ++ ")")
  simp only [String.append_assoc]

theorem toList_length (n : Nat) :
    (s!"({n})").toList = '(' :: ((toString n).toList ++ [')']) := by
  change ("(" ++ toString n ++ ")").toList = _
  rw [String.toList_append, String.toList_append, List.append_assoc]
  rfl

theorem toList_precision (n m : Nat) :
    (s!"({n},{m})").toList =
      '(' :: ((toString n).toList ++ ',' :: ((toString m).toList ++ [')'])) := by
  change ("(" ++ toString n ++ "," ++ toString m ++ ")").toList = _
  simp only [String.toList_append, List.append_assoc]
  rfl

theorem toList_cell (name : String) (n : Nat) :
    (s!"{name}({n})").toList = name.toList ++ '(' :: ((toString n).toList ++ [')']) := by
  rw [cell_eq, String.toList_append, toList_length]

namespace IsTypeName

variable {name : String}

/-- **A name and a length make a cell,** -/
theorem typeCell_length (h : IsTypeName name) (n : UInt32) :
    TypeCell (name ++ s!"({n.toNat})") name n none := by
  refine ⟨h, name.toList, _, ?_, .refl _,
    .length (.refl _) (numeral_toString n.toNat) (List.forall_mem_nil _)⟩
  rw [String.toList_append, toList_length]

/-- **and so do a name, a length and a scale.** -/
theorem typeCell_precision (h : IsTypeName name) (n m : UInt32) :
    TypeCell (name ++ s!"({n.toNat},{m.toNat})") name n (some m) := by
  refine ⟨h, name.toList, _, ?_, .refl _, .scale (.refl _) (numeral_toString n.toNat) (.refl _)
    (numeral_toString m.toNat) (List.forall_mem_nil _)⟩
  rw [String.toList_append, toList_precision]

end IsTypeName

theorem splitPrecision?_length {name : String} (h : IsTypeName name) (n : UInt32) :
    splitPrecision? s!"{name}({n.toNat})" = some (name, n, none) := by
  rw [cell_eq]
  exact (h.typeCell_length n).splitPrecision?_eq

end TableSql
