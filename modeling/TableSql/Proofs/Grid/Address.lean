import Mathlib.Data.Char
import Mathlib.Data.List.Shortlex
import Mathlib.Tactic.Ring
import TableSql.Grid.Template
import TableSql.Proofs.Text.Ascii

/-!
# Column letters as numbers

Letters are digits from 1 to 26: there is no digit for zero, so that no two runs of capitals have
the same value and every number from 1 on is the value of one of them.

* `letterValue`, `lettersValue` — the value of a letter, and of letters in base 26.
* `lettersOf` — the capitals that have a given value.
* `ColumnLetters` — letters whose value fits 64 bits.
* `Capitals` — texts of letters from `A` to `Z`.

Principal results: `lettersValue_lt_of_shortlex` (shorter ones first, then by the alphabet),
`lettersValue_lettersOf` (every number is a value), `columnNumber?_eq_ok_iff` (reading letters
refuses just the values that are too large) and `columnIndex?_eq_ok_iff`; from them, that column
letters number all places.
-/

set_option autoImplicit false

namespace TableSql

/-! ## Letters -/

/-- The value of a letter: from 1 for `A` or `a` to 26 for `Z` or `z`. -/
def letterValue (c : Char) : Nat :=
  if c.isUpper then c.toNat - 'A'.toNat + 1 else c.toNat - 'a'.toNat + 1

theorem letterValue_of_isUpper {c : Char} (h : c.isUpper = true) :
    letterValue c = c.toNat - 64 := by
  have hA : 'A'.toNat = 65 := rfl
  have hbounds := Text.isUpper_iff.1 h
  unfold letterValue
  rw [if_pos h]
  omega

theorem letterValue_bounds {c : Char} (h : c.isAlpha = true) :
    1 ≤ letterValue c ∧ letterValue c ≤ 26 :=
  Text.forall_ascii (p := fun c => c.isAlpha = true → 1 ≤ letterValue c ∧ letterValue c ≤ 26)
    (by decide) (Text.toNat_lt_of_isAlpha h) h

theorem letterDigit?_eq (c : Char) :
    letterDigit? c = if c.isAlpha then some (letterValue c) else none := by
  by_cases hc : c.toNat < 128
  · exact Text.forall_ascii
      (p := fun c => letterDigit? c = if c.isAlpha then some (letterValue c) else none)
      (by decide) hc
  · have halpha : ¬ c.isAlpha = true := fun h => hc (Text.toNat_lt_of_isAlpha h)
    have hlower : ¬ c.isLower = true := fun h => halpha (Text.isAlpha_iff.2 (.inr h))
    have hZ : ¬ c.val ≤ 'z'.val := by
      have hz : 'z'.val.toNat = 122 := rfl
      have hn : c.toNat = c.val.toNat := rfl
      rw [UInt32.le_iff_toNat_le]
      omega
    have hupper : c.toUpper = c := by
      unfold Char.toUpper
      exact dif_neg fun h => hZ h.2
    have hrange : ¬ ('A' ≤ c ∧ c ≤ 'Z') := fun h => hZ (UInt32.le_trans h.2 (by decide))
    unfold letterDigit?
    rw [if_neg halpha]
    simp only [hupper]
    exact if_neg hrange

/-! ## Values -/

/-- The value of letters in base 26, the last one worth the least. -/
def lettersValue : List Char → Nat
  | [] => 0
  | c :: cs => letterValue c * 26 ^ cs.length + lettersValue cs

theorem lettersValue_concat (cs : List Char) (c : Char) :
    lettersValue (cs ++ [c]) = lettersValue cs * 26 + letterValue c := by
  induction cs with
  | nil => simp [lettersValue]
  | cons d cs ih =>
    rw [List.cons_append, lettersValue, lettersValue, ih, List.length_append, List.length_singleton,
      pow_succ]
    ring

/-- The values of letters of one length: those of `A…A` and of `Z…Z` are the ends. -/
theorem lettersValue_bounds {cs : List Char} (h : ∀ c ∈ cs, c.isAlpha = true) :
    26 ^ cs.length ≤ 25 * lettersValue cs + 1 ∧
      25 * lettersValue cs + 26 ≤ 26 ^ (cs.length + 1) := by
  induction cs with
  | nil => simp [lettersValue]
  | cons c cs ih =>
    rw [List.forall_mem_cons] at h
    obtain ⟨hlow, hhigh⟩ := ih h.2
    have hdigit := letterValue_bounds h.1
    have hone : 1 * 26 ^ cs.length ≤ letterValue c * 26 ^ cs.length :=
      Nat.mul_le_mul_right _ hdigit.1
    have hall : letterValue c * 26 ^ cs.length ≤ 26 * 26 ^ cs.length :=
      Nat.mul_le_mul_right _ hdigit.2
    rw [lettersValue, List.length_cons]
    simp only [pow_succ] at hhigh ⊢
    omega

theorem lettersValue_pos {cs : List Char} (h : ∀ c ∈ cs, c.isAlpha = true) (hne : cs ≠ []) :
    0 < lettersValue cs := by
  obtain ⟨c, cs, rfl⟩ := List.exists_cons_of_ne_nil hne
  have hlow := (lettersValue_bounds h).1
  rw [List.length_cons, pow_succ] at hlow
  have hpower : 0 < 26 ^ cs.length := Nat.pow_pos (by decide)
  omega

theorem isAlpha_of_isUpper {cs : List Char} (h : ∀ c ∈ cs, c.isUpper = true) :
    ∀ c ∈ cs, c.isAlpha = true :=
  fun c hc => Text.isAlpha_iff.2 (.inl (h c hc))

/-- Fewer letters have a smaller value, -/
theorem lettersValue_lt_of_length_lt {a b : List Char} (ha : ∀ c ∈ a, c.isAlpha = true)
    (hb : ∀ c ∈ b, c.isAlpha = true) (h : a.length < b.length) :
    lettersValue a < lettersValue b := by
  have hhigh := (lettersValue_bounds ha).2
  have hlow := (lettersValue_bounds hb).1
  have hpower : 26 ^ (a.length + 1) ≤ 26 ^ b.length := Nat.pow_le_pow_right (by decide) h
  omega

/-- and among as many the first difference decides: a greater letter outweighs whatever follows. -/
theorem lettersValue_lt_of_lex {a b : List Char} (ha : ∀ c ∈ a, c.isUpper = true)
    (hb : ∀ c ∈ b, c.isUpper = true) (hlength : a.length = b.length)
    (h : List.Lex (· < ·) a b) : lettersValue a < lettersValue b := by
  induction h with
  | nil => cases hlength
  | cons _ ih =>
    rw [List.forall_mem_cons] at ha hb
    rw [List.length_cons, List.length_cons, Nat.succ_inj] at hlength
    have := ih ha.2 hb.2 hlength
    rw [lettersValue, lettersValue, hlength]
    omega
  | @rel c as d bs hlt =>
    rw [List.forall_mem_cons] at ha hb
    rw [List.length_cons, List.length_cons, Nat.succ_inj] at hlength
    have hhigh := (lettersValue_bounds (isAlpha_of_isUpper ha.2)).2
    have hlow := (lettersValue_bounds (isAlpha_of_isUpper hb.2)).1
    have hdigit : letterValue c + 1 ≤ letterValue d := by
      rw [letterValue_of_isUpper ha.1, letterValue_of_isUpper hb.1]
      have hc := Text.isUpper_iff.1 ha.1
      have hd : c.toNat < d.toNat := hlt
      omega
    have hstep : (letterValue c + 1) * 26 ^ bs.length ≤ letterValue d * 26 ^ bs.length :=
      Nat.mul_le_mul_right _ hdigit
    rw [lettersValue, lettersValue, hlength]
    rw [hlength, pow_succ] at hhigh
    rw [Nat.add_mul, Nat.one_mul] at hstep
    omega

/-- **Capitals are counted shorter ones first, those of one length by the alphabet.** -/
theorem lettersValue_lt_of_shortlex {a b : List Char} (ha : ∀ c ∈ a, c.isUpper = true)
    (hb : ∀ c ∈ b, c.isUpper = true) (h : List.Shortlex (· < ·) a b) :
    lettersValue a < lettersValue b := by
  rcases List.shortlex_def.1 h with hlength | ⟨hlength, hlex⟩
  · exact lettersValue_lt_of_length_lt (isAlpha_of_isUpper ha) (isAlpha_of_isUpper hb) hlength
  · exact lettersValue_lt_of_lex ha hb hlength hlex

theorem lettersValue_inj {a b : List Char} (ha : ∀ c ∈ a, c.isUpper = true)
    (hb : ∀ c ∈ b, c.isUpper = true) (h : lettersValue a = lettersValue b) : a = b := by
  rcases trichotomous_of (List.Shortlex (· < ·)) a b with hab | hab | hab
  · exact absurd h (Nat.ne_of_lt (lettersValue_lt_of_shortlex ha hb hab))
  · exact hab
  · exact absurd h.symm (Nat.ne_of_lt (lettersValue_lt_of_shortlex hb ha hab))

/-- The capitals that have a given value. -/
def lettersOf (n : Nat) : List Char :=
  if n = 0 then [] else lettersOf ((n - 1) / 26) ++ [Char.ofNat (65 + (n - 1) % 26)]
termination_by n
decreasing_by omega

theorem isUpper_digit {d : Nat} (h : d < 26) : (Char.ofNat (65 + d)).isUpper = true := by
  have : ∀ d < 26, (Char.ofNat (65 + d)).isUpper = true := by decide
  exact this d h

theorem letterValue_digit {d : Nat} (h : d < 26) : letterValue (Char.ofNat (65 + d)) = d + 1 := by
  have : ∀ d < 26, letterValue (Char.ofNat (65 + d)) = d + 1 := by decide
  exact this d h

theorem isUpper_lettersOf (n : Nat) : ∀ c ∈ lettersOf n, c.isUpper = true := by
  induction n using Nat.strongRecOn with
  | ind n ih =>
    rw [lettersOf]
    split
    · simp
    · rename_i hn
      have hdigit : (n - 1) % 26 < 26 := Nat.mod_lt _ (by decide)
      simp only [List.mem_append, List.mem_singleton, or_imp, forall_and, forall_eq]
      exact ⟨ih _ (by omega), isUpper_digit hdigit⟩

theorem lettersValue_lettersOf (n : Nat) : lettersValue (lettersOf n) = n := by
  induction n using Nat.strongRecOn with
  | ind n ih =>
    rw [lettersOf]
    split
    · rename_i hn
      rw [hn, lettersValue]
    · rename_i hn
      have hdigit : (n - 1) % 26 < 26 := Nat.mod_lt _ (by decide)
      rw [lettersValue_concat, ih _ (by omega), letterValue_digit hdigit]
      omega

/-! ## Reading letters -/

/-- **The checked loop goes on to the value of all letters, and refuses it just if it is too
large.** -/
theorem columnNumber?_eq_ok_iff {cs : List Char} {n m : Nat} (hn : n ≤ maxColumnNumber) :
    columnNumber? n cs = .ok m ↔
      (∀ c ∈ cs, c.isAlpha = true) ∧ n * 26 ^ cs.length + lettersValue cs = m ∧
        m ≤ maxColumnNumber := by
  induction cs generalizing n with
  | nil =>
    simp only [columnNumber?, lettersValue, Except.ok.injEq, List.not_mem_nil, false_imp_iff,
      implies_true, true_and, List.length_nil, pow_zero, Nat.mul_one, Nat.add_zero]
    exact ⟨fun h => ⟨h, h ▸ hn⟩, And.left⟩
  | cons c cs ih =>
    have hvalue : n * 26 ^ (c :: cs).length + lettersValue (c :: cs) =
        (n * 26 + letterValue c) * 26 ^ cs.length + lettersValue cs := by
      rw [lettersValue, List.length_cons, pow_succ]
      ring
    rw [columnNumber?, letterDigit?_eq, List.forall_mem_cons, hvalue]
    by_cases hc : c.isAlpha = true
    · simp only [hc, if_true, true_and]
      by_cases hnext : n * 26 + letterValue c ≤ maxColumnNumber
      · rw [if_pos hnext, ih hnext]
      · -- what has been read so far is a lower bound of what is to come
        have hpower : 1 ≤ 26 ^ cs.length := Nat.pow_pos (by decide)
        have hlow : (n * 26 + letterValue c) * 1 ≤ (n * 26 + letterValue c) * 26 ^ cs.length :=
          Nat.mul_le_mul_left _ hpower
        rw [if_neg hnext]
        simp only [reduceCtorEq, false_iff, not_and]
        rintro - rfl
        omega
    · simp [hc]

/-- Letters that name a column: letters of ASCII whose value fits 64 bits. -/
structure ColumnLetters (cs : List Char) : Prop where
  ne_nil : cs ≠ []
  letters : ∀ c ∈ cs, c.isAlpha = true
  fits : lettersValue cs < UInt64.size

instance (cs : List Char) : Decidable (ColumnLetters cs) :=
  haveI : Decidable (∀ c ∈ cs, c.isAlpha = true) := List.decidableBAll _ cs
  decidable_of_iff (cs ≠ [] ∧ (∀ c ∈ cs, c.isAlpha = true) ∧ lettersValue cs < UInt64.size)
    ⟨fun ⟨ne_nil, letters, fits⟩ => ⟨ne_nil, letters, fits⟩,
      fun h => ⟨h.ne_nil, h.letters, h.fits⟩⟩

variable {letters : String} {place : Nat}

theorem lettersNumber?_eq_ok_iff {n : Nat} :
    lettersNumber? letters = .ok n ↔
      ColumnLetters (Text.stripChars letters.toList) ∧
        lettersValue (Text.stripChars letters.toList) = n := by
  have hmax : ∀ n, n ≤ maxColumnNumber ↔ n < UInt64.size := fun n => by
    unfold maxColumnNumber
    exact Nat.le_sub_one_iff_lt (by decide)
  unfold lettersNumber?
  generalize Text.stripChars letters.toList = cs
  cases cs with
  | nil =>
    simp only [reduceCtorEq, false_iff, not_and]
    exact fun h => absurd rfl h.ne_nil
  | cons c cs =>
    rw [columnNumber?_eq_ok_iff (Nat.zero_le _), Nat.zero_mul, Nat.zero_add, hmax]
    constructor
    · rintro ⟨hletters, rfl, hfits⟩
      exact ⟨⟨List.cons_ne_nil _ _, hletters, hfits⟩, rfl⟩
    · rintro ⟨h, rfl⟩
      exact ⟨h.letters, rfl, h.fits⟩

/-- The place of a column comes one before its number. -/
theorem columnIndex?_eq_ok_iff :
    columnIndex? letters = .ok place ↔
      ColumnLetters (Text.stripChars letters.toList) ∧
        place + 1 = lettersValue (Text.stripChars letters.toList) := by
  unfold columnIndex?
  cases hnumber : lettersNumber? letters with
  | ok n =>
    obtain ⟨hletters, rfl⟩ := lettersNumber?_eq_ok_iff.1 hnumber
    have hpos := lettersValue_pos hletters.letters hletters.ne_nil
    simp only [Except.ok.injEq, hletters, true_and]
    omega
  | error fault =>
    simp only [reduceCtorEq, false_iff, not_and]
    intro hletters
    rw [lettersNumber?_eq_ok_iff.2 ⟨hletters, rfl⟩] at hnumber
    cases hnumber

theorem ColumnLetters.columnIndex?_eq (h : ColumnLetters (Text.stripChars letters.toList)) :
    columnIndex? letters = .ok (lettersValue (Text.stripChars letters.toList) - 1) := by
  have hpos := lettersValue_pos h.letters h.ne_nil
  exact columnIndex?_eq_ok_iff.2 ⟨h, by omega⟩

/-- All other letters are refused as they were given, the white space around them included. -/
theorem exists_fault_of_not_columnLetters
    (h : ¬ ColumnLetters (Text.stripChars letters.toList)) :
    ∃ fault : AddressFault,
      columnIndex? letters = .error (.invalidAddress letters fault.message) := by
  unfold columnIndex?
  cases hnumber : lettersNumber? letters with
  | ok n => exact absurd (lettersNumber?_eq_ok_iff.1 hnumber).1 h
  | error fault => exact ⟨fault, rfl⟩

/-! ## Capitals -/

def Capitals (s : String) : Prop := ∀ c ∈ s.toList, c.isUpper = true

-- by the characters of the text: there is also an instance that goes through all characters
instance (s : String) : Decidable (Capitals s) := List.decidableBAll _ s.toList

namespace Capitals

variable {s t : String}

theorem stripChars_eq (hs : Capitals s) : Text.stripChars s.toList = s.toList := by
  refine (Text.Stripped.of_forall fun c hc => ?_).stripChars_eq
  have hupper := Text.isUpper_iff.1 (hs c hc)
  exact Text.forall_ascii
    (p := fun c => c.isUpper = true → Text.isBlank c = false) (by decide) (by omega) (hs c hc)

theorem columnIndex?_inj (hs : Capitals s) (ht : Capitals t)
    (h : columnIndex? s = columnIndex? t) : s = t := by
  by_cases hs' : ColumnLetters (Text.stripChars s.toList)
  · have hpos := lettersValue_pos hs'.letters hs'.ne_nil
    rw [hs'.columnIndex?_eq] at h
    obtain ⟨-, hvalue⟩ := columnIndex?_eq_ok_iff.1 h.symm
    rw [Nat.sub_add_cancel hpos, hs.stripChars_eq, ht.stripChars_eq] at hvalue
    exact String.toList_inj.1 (lettersValue_inj hs ht hvalue)
  · -- a refusal holds the letters themselves
    obtain ⟨fault, hfault⟩ := exists_fault_of_not_columnLetters hs'
    rw [hfault] at h
    by_cases ht' : ColumnLetters (Text.stripChars t.toList)
    · rw [ht'.columnIndex?_eq] at h
      cases h
    · obtain ⟨fault', hfault'⟩ := exists_fault_of_not_columnLetters ht'
      rw [hfault', Except.error.injEq, TableError.invalidAddress.injEq] at h
      exact h.1

/-- The order of places is that of the capitals: shorter ones first, then by the alphabet. -/
theorem shortlex_iff_lt {i j : Nat} (hs : Capitals s) (ht : Capitals t)
    (hi : columnIndex? s = .ok i) (hj : columnIndex? t = .ok j) :
    List.Shortlex (· < ·) s.toList t.toList ↔ i < j := by
  have hsi := (columnIndex?_eq_ok_iff.1 hi).2
  have htj := (columnIndex?_eq_ok_iff.1 hj).2
  rw [hs.stripChars_eq] at hsi
  rw [ht.stripChars_eq] at htj
  rcases trichotomous_of (List.Shortlex (· < ·)) s.toList t.toList with hlt | heq | hgt
  · have := lettersValue_lt_of_shortlex hs ht hlt
    exact iff_of_true hlt (by omega)
  · rw [heq] at hsi ⊢
    exact iff_of_false (irrefl_of (List.Shortlex (· < ·)) _) (by omega)
  · have := lettersValue_lt_of_shortlex ht hs hgt
    exact iff_of_false (asymm_of (List.Shortlex (· < ·)) hgt) (by omega)

end Capitals

theorem exists_capitals (h : place + 1 < UInt64.size) :
    ∃ s, Capitals s ∧ columnIndex? s = .ok place := by
  have hcapitals : Capitals (String.ofList (lettersOf (place + 1))) := by
    unfold Capitals
    rw [String.toList_ofList]
    exact isUpper_lettersOf _
  refine ⟨_, hcapitals, ?_⟩
  rw [columnIndex?_eq_ok_iff, hcapitals.stripChars_eq, String.toList_ofList,
    lettersValue_lettersOf]
  refine ⟨⟨?_, isAlpha_of_isUpper (isUpper_lettersOf _), ?_⟩, rfl⟩
  · rw [lettersOf, if_neg (Nat.succ_ne_zero _)]
    simp
  · rwa [lettersValue_lettersOf]

/-- **Column letters number the places from 0 to 2^64 - 2.** Letters name a column exactly if they
are ASCII letters of a value that fits 64 bits, white space around them left out, and its place comes
one before this value; all other letters are refused, with the letters as they were given. Among
capitals no two name the same place, every place has its name, and places are in the order of the
capitals: shorter ones first, then by the alphabet. -/
theorem column_letters_number_places :
    (∀ letters place, columnIndex? letters = .ok place ↔
      ColumnLetters (Text.stripChars letters.toList) ∧
        place + 1 = lettersValue (Text.stripChars letters.toList)) ∧
    (∀ letters, ¬ ColumnLetters (Text.stripChars letters.toList) → ∃ fault : AddressFault,
      columnIndex? letters = .error (.invalidAddress letters fault.message)) ∧
    (∀ s t, Capitals s → Capitals t → columnIndex? s = columnIndex? t → s = t) ∧
    (∀ place, place + 1 < UInt64.size → ∃ s, Capitals s ∧ columnIndex? s = .ok place) ∧
    ∀ s t i j, Capitals s → Capitals t → columnIndex? s = .ok i → columnIndex? t = .ok j →
      (List.Shortlex (· < ·) s.toList t.toList ↔ i < j) :=
  ⟨fun _ _ => columnIndex?_eq_ok_iff, fun _ => exists_fault_of_not_columnLetters,
    fun _ _ hs ht => hs.columnIndex?_inj ht, fun _ => exists_capitals,
    fun _ _ _ _ hs ht => hs.shortlex_iff_lt ht⟩

/-- The last place and the letters behind it, in either letter case and with white space around
them. -/
theorem column_letters_number_places_end :
    columnIndex? "\tgKGwbylwrxtlpo\u3000" = .ok 18446744073709551614 ∧
      (∃ fault : AddressFault, columnIndex? " GKGWBYLWRXTLPP" =
        .error (.invalidAddress " GKGWBYLWRXTLPP" fault.message)) ∧
      columnIndex? "GKGWBYLWRXTLPO" ≠ columnIndex? "ZZ" ∧
      (∃ s, Capitals s ∧ columnIndex? s = .ok 18446744073709551614) ∧
      List.Shortlex (· < ·) "ZZ".toList "GKGWBYLWRXTLPO".toList := by
  obtain ⟨hplace, hrefused, hinj, hall, horder⟩ := column_letters_number_places
  have hlast : columnIndex? "GKGWBYLWRXTLPO" = .ok 18446744073709551614 :=
    (hplace _ _).2 ⟨by decide, by decide⟩
  have hshort : columnIndex? "ZZ" = .ok 701 := (hplace _ _).2 ⟨by decide, by decide⟩
  refine ⟨(hplace _ _).2 ⟨by decide, by decide⟩, hrefused _ (by decide), fun h => ?_,
    hall _ (by decide), (horder _ _ _ _ (by decide) (by decide) hshort hlast).2 (by decide)⟩
  exact absurd (hinj _ _ (by decide) (by decide) h) (by decide)

end TableSql
