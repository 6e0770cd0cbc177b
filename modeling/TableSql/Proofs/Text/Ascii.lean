import Mathlib.Data.List.Infix
import TableSql.Text.Blank
import TableSql.Text.Case

/-!
# Texts over ASCII

Over ASCII the full Unicode upper and lower case are those of `A`–`Z`, one character for one.

* `IsAscii` — a text whose characters are all below 128.

Principal results: `forall_ascii` (a property of the ASCII characters is checked value by value),
`upper_of_isAscii`, `eq_of_mem_upperChar` (the full upper case makes no ASCII character but
capitals), `lower_of_isAscii`, `lower_eq_empty_iff` (the full lower case leaves nothing out), and
what keeps a text over ASCII: `IsAscii.append`, `IsAscii.strip` and `IsAscii.asciiUpper`.
-/

set_option autoImplicit false

namespace TableSql.Text

def IsAscii (s : String) : Prop := ∀ c ∈ s.toList, c.toNat < 128

-- by the characters of the text: there is also an instance that goes through all characters
instance (s : String) : Decidable (IsAscii s) := List.decidableBAll _ s.toList

/-- A property of the ASCII characters, checked value by value. -/
theorem forall_ascii {p : Char → Prop} (h : ∀ n < 128, p (Char.ofNat n)) {c : Char}
    (hc : c.toNat < 128) : p c := by
  have := h c.toNat hc
  rwa [Char.ofNat_toNat] at this

/-- A property of the entries of a table, checked entry by entry. -/
theorem forall_mem_of_all {α : Type} {p : α → Prop} [DecidablePred p] {entries : List α}
    (h : entries.all (fun a => decide (p a)) = true) : ∀ a ∈ entries, p a :=
  fun a ha => of_decide_eq_true (List.all_eq_true.mp h a ha)

/-! ## Digits and letters -/

variable {c : Char}

theorem isDigit_iff : c.isDigit = true ↔ 48 ≤ c.toNat ∧ c.toNat ≤ 57 := by
  have h0 : '0'.val.toNat = 48 := rfl
  have h9 : '9'.val.toNat = 57 := rfl
  have hn : c.toNat = c.val.toNat := rfl
  unfold Char.isDigit
  simp only [ge_iff_le, Bool.and_eq_true, decide_eq_true_eq, UInt32.le_iff_toNat_le]
  omega

theorem isUpper_iff : c.isUpper = true ↔ 65 ≤ c.toNat ∧ c.toNat ≤ 90 := by
  have hA : 'A'.val.toNat = 65 := rfl
  have hZ : 'Z'.val.toNat = 90 := rfl
  have hn : c.toNat = c.val.toNat := rfl
  unfold Char.isUpper
  simp only [ge_iff_le, decide_eq_true_eq, UInt32.le_iff_toNat_le]
  omega

theorem isLower_iff : c.isLower = true ↔ 97 ≤ c.toNat ∧ c.toNat ≤ 122 := by
  have ha : 'a'.val.toNat = 97 := rfl
  have hz : 'z'.val.toNat = 122 := rfl
  have hn : c.toNat = c.val.toNat := rfl
  unfold Char.isLower
  simp only [ge_iff_le, Bool.and_eq_true, decide_eq_true_eq, UInt32.le_iff_toNat_le]
  omega

theorem isAlpha_iff : c.isAlpha = true ↔ c.isUpper = true ∨ c.isLower = true := by
  unfold Char.isAlpha
  rw [Bool.or_eq_true]

theorem toNat_lt_of_isDigit (hc : c.isDigit = true) : c.toNat < 128 := by
  rw [isDigit_iff] at hc
  omega

theorem toNat_lt_of_isAlpha (hc : c.isAlpha = true) : c.toNat < 128 := by
  rw [isAlpha_iff, isUpper_iff, isLower_iff] at hc
  omega

theorem isBlank_of_isDigit (hc : c.isDigit = true) : isBlank c = false :=
  forall_ascii (p := fun c => c.isDigit = true → isBlank c = false) (by decide)
    (toNat_lt_of_isDigit hc) hc

/-! ## Upper case -/

theorem asciiUpper_append (s t : String) : asciiUpper (s ++ t) = asciiUpper s ++ asciiUpper t := by
  rw [← String.toList_inj, toList_asciiUpper, String.toList_append, String.toList_append,
    toList_asciiUpper, toList_asciiUpper, List.map_append]

theorem toUpper_of_not_ascii (hc : ¬ c.toNat < 128) : c.toUpper = c := by
  unfold Char.toUpper
  rw [dif_neg]
  rintro ⟨-, h⟩
  have hz : 'z'.val.toNat = 122 := rfl
  have hn : c.toNat = c.val.toNat := rfl
  rw [UInt32.le_iff_toNat_le] at h
  omega

theorem toLower_of_not_ascii (hc : ¬ c.toNat < 128) : c.toLower = c := by
  unfold Char.toLower
  rw [dif_neg]
  rintro ⟨-, h⟩
  have hz : 'Z'.val.toNat = 90 := rfl
  have hn : c.toNat = c.val.toNat := rfl
  rw [UInt32.le_iff_toNat_le] at h
  omega

theorem toUpper_toUpper (c : Char) : c.toUpper.toUpper = c.toUpper := by
  by_cases hc : c.toNat < 128
  · exact forall_ascii (p := fun c => c.toUpper.toUpper = c.toUpper) (by decide) hc
  · rw [toUpper_of_not_ascii hc, toUpper_of_not_ascii hc]

theorem toUpper_eq_self_iff : c.toUpper = c ↔ c.isLower = false := by
  by_cases hc : c.toNat < 128
  · exact forall_ascii (p := fun c => c.toUpper = c ↔ c.isLower = false) (by decide) hc
  · refine iff_of_true (toUpper_of_not_ascii hc) ?_
    rw [← Bool.not_eq_true, isLower_iff]
    omega

theorem asciiUpper_eq_self_iff {s : String} :
    asciiUpper s = s ↔ ∀ c ∈ s.toList, c.isLower = false := by
  rw [← String.toList_inj, toList_asciiUpper]
  nth_rewrite 2 [← List.map_id s.toList]
  rw [List.map_inj_left]
  exact forall₂_congr fun c _ => toUpper_eq_self_iff

theorem asciiUpper_asciiUpper (s : String) : asciiUpper (asciiUpper s) = asciiUpper s := by
  rw [← String.toList_inj, toList_asciiUpper, toList_asciiUpper, List.map_map]
  exact List.map_congr_left fun c _ => toUpper_toUpper c

theorem toLower_toUpper (hc : c.toNat < 128) : c.toUpper.toLower = c.toLower :=
  forall_ascii (p := fun c => c.toUpper.toLower = c.toLower) (by decide) hc

theorem isBlank_toUpper (c : Char) : isBlank c.toUpper = isBlank c := by
  by_cases hc : c.toNat < 128
  · exact forall_ascii (p := fun c => isBlank c.toUpper = isBlank c) (by decide) hc
  · rw [toUpper_of_not_ascii hc]

theorem toNat_toUpper_lt (hc : c.toNat < 128) : c.toUpper.toNat < 128 :=
  forall_ascii (p := fun c => c.toUpper.toNat < 128) (by decide) hc

def asciiRun : CaseRun := ⟨0x61, 0x7A, 1, 0x41⟩

theorem upperRuns_eq : upperRuns = asciiRun :: upperRuns.tail := rfl

/-- The other runs start above ASCII. One that leads into ASCII is of a single character and leads
to a capital. -/
theorem upperRuns_tail : ∀ r ∈ upperRuns.tail, 128 ≤ r.first ∧
    (128 ≤ r.image ∨ r.first = r.last ∧ (Char.ofNat r.image).isUpper = true) :=
  forall_mem_of_all (by decide +kernel)

theorem upperExpansions_spec : ∀ e ∈ upperExpansions, 128 ≤ e.1 ∧
    ∀ n ∈ e.2, 128 ≤ n ∨ (Char.ofNat n).isUpper = true :=
  forall_mem_of_all (by decide +kernel)

theorem getD_asciiRun (hc : c.toNat < 128) :
    ((( asciiRun.apply? c.toNat).map Char.ofNat).getD c) = c.toUpper :=
  forall_ascii (p := fun c => ((( asciiRun.apply? c.toNat).map Char.ofNat).getD c) = c.toUpper)
    (by decide) hc

/-- Of an ASCII character a table makes what its first run makes of it, if all else in the table is
above ASCII. -/
theorem mapCase_of_ascii {run : CaseRun} {runs : List CaseRun} {expansions : List (Nat × List Nat)}
    (hruns : ∀ r ∈ runs, 128 ≤ r.first) (hexpansions : ∀ e ∈ expansions, 128 ≤ e.1)
    (hc : c.toNat < 128) :
    mapCase (run :: runs) expansions c = [(( run.apply? c.toNat).map Char.ofNat).getD c] := by
  have hnone : runs.findSome? (fun r => r.apply? c.toNat) = none := by
    rw [List.findSome?_eq_none_iff]
    intro r hr
    have := hruns r hr
    rw [ CaseRun.apply?, if_neg]
    simp only [Bool.and_eq_true, decide_eq_true_eq, not_and]
    omega
  have hlookup : expansions.lookup c.toNat = none := by
    rw [List.lookup_eq_none_iff]
    intro e he
    have := hexpansions e he
    simp only [bne_iff_ne]
    omega
  rw [mapCase, List.findSome?_cons, hnone, hlookup]
  cases run.apply? c.toNat with
  | none => rfl
  | some n => rfl

theorem upperChar_of_ascii (hc : c.toNat < 128) : upperChar c = [c.toUpper] := by
  have hruns : ∀ r ∈ upperRuns.tail, 128 ≤ r.first := fun r hr => (upperRuns_tail r hr).1
  have hexpansions : ∀ e ∈ upperExpansions, 128 ≤ e.1 := fun e he => (upperExpansions_spec e he).1
  rw [upperChar, upperRuns_eq, mapCase_of_ascii hruns hexpansions hc, getD_asciiRun hc]

theorem upper_of_isAscii {s : String} (h : IsAscii s) : upper s = asciiUpper s := by
  have hchars : ∀ cs : List Char, (∀ c ∈ cs, c.toNat < 128) →
      upperChars cs = cs.map Char.toUpper := by
    intro cs
    induction cs with
    | nil => intro _; rfl
    | cons c cs ih =>
      intro hcs
      rw [List.forall_mem_cons] at hcs
      rw [upperChars, List.flatMap_cons, upperChar_of_ascii hcs.1]
      exact congrArg (c.toUpper :: ·) (ih hcs.2)
  rw [upper, hchars _ h, asciiUpper]

/-! ## What upper case makes -/

/-- Only letters come out of the upper case of another character. -/
theorem eq_of_toUpper_eq {c m : Char} (hm : m.isUpper = false) (h : c.toUpper = m) :
    c = m := by
  unfold Char.toUpper at h
  split at h
  · rename_i hc
    subst h
    exfalso
    unfold Char.isUpper at hm
    simp [UInt32.le_iff_toNat_le] at hm hc ⊢
    omega
  · exact h

theorem toUpper_eq_iff {m : Char} (hupper : m.isUpper = false) (hlower : m.isLower = false) :
    c.toUpper = m ↔ c = m := by
  refine ⟨eq_of_toUpper_eq hupper, ?_⟩
  rintro rfl
  exact toUpper_eq_self_iff.2 hlower

/-- A character of a high number is not an ASCII one, unless the number is of no character. -/
theorem eq_of_ofNat {n : Nat} {m : Char} (hm : m.toNat < 128) (hn : 128 ≤ n)
    (h : Char.ofNat n = m) : m = '\x00' := by
  unfold Char.ofNat at h
  by_cases hvalid : n.isValidChar
  · rw [dif_pos hvalid] at h
    have hnumber : m.toNat = n := congrArg Char.toNat h.symm
    omega
  · rw [dif_neg hvalid] at h
    exact h.symm

/-- **Upper case makes no ASCII character but capitals.** -/
theorem eq_of_mem_upperChar {c m : Char} (hm : m.toNat < 128) (hcapital : m.isUpper = false)
    (hnull : m ≠ '\x00') (h : m ∈ upperChar c) : c = m := by
  have hlow {n : Nat} (hn : 128 ≤ n ∨ (Char.ofNat n).isUpper = true) (he : Char.ofNat n = m) :
      False := by
    rcases hn with hn | hn
    · exact hnull (eq_of_ofNat hm hn he)
    · rw [he, hcapital] at hn
      cases hn
  by_cases hc : c.toNat < 128
  · rw [upperChar_of_ascii hc, List.mem_singleton] at h
    exact eq_of_toUpper_eq hcapital h.symm
  · have hascii : asciiRun.apply? c.toNat = none := by
      have : ¬ c.toNat ≤ 0x7A := by omega
      simp [ CaseRun.apply?, asciiRun, this]
    rw [upperChar, mapCase, upperRuns_eq, List.findSome?_cons, hascii] at h
    simp only at h
    split at h
    · rename_i n hn
      obtain ⟨r, hr, happly⟩ := List.exists_of_findSome?_eq_some hn
      obtain rfl : m = Char.ofNat n := by simpa using h
      rw [ CaseRun.apply?] at happly
      split at happly
      · rename_i hin
        simp only [Bool.and_eq_true, decide_eq_true_eq] at hin
        cases happly
        exfalso
        rcases (upperRuns_tail r hr).2 with himage | ⟨hone, hupper⟩
        · exact hlow (.inl (by omega)) rfl
        · refine hlow (.inr ?_) rfl
          rwa [show r.image + (c.toNat - r.first) = r.image by omega]
      · cases happly
    · split at h
      · rename_i ns hns
        obtain ⟨before, after, hmem, -⟩ := List.lookup_eq_some_iff.1 hns
        have hmem : (c.toNat, ns) ∈ upperExpansions := by simp [hmem]
        obtain ⟨n, hn, he⟩ := List.mem_map.1 h
        exact (hlow ((upperExpansions_spec _ hmem).2 n hn) he).elim
      · exact (List.mem_singleton.1 h).symm

/-! ## Lower case -/

theorem toLower_eq_self_iff : c.toLower = c ↔ c.isUpper = false := by
  by_cases hc : c.toNat < 128
  · exact forall_ascii (p := fun c => c.toLower = c ↔ c.isUpper = false) (by decide) hc
  · refine iff_of_true (toLower_of_not_ascii hc) ?_
    rw [← Bool.not_eq_true, isUpper_iff]
    omega

def asciiCapitals : CaseRun := ⟨0x41, 0x5A, 1, 0x61⟩

theorem lowerRuns_eq : lowerRuns = asciiCapitals :: lowerRuns.tail := rfl

theorem lowerRuns_above : ∀ r ∈ lowerRuns.tail, 128 ≤ r.first :=
  forall_mem_of_all (by decide +kernel)

theorem lowerExpansions_spec : ∀ e ∈ lowerExpansions, 128 ≤ e.1 ∧ e.2 ≠ [] :=
  forall_mem_of_all (by decide +kernel)

theorem getD_asciiCapitals (hc : c.toNat < 128) :
    ((( asciiCapitals.apply? c.toNat).map Char.ofNat).getD c) = c.toLower :=
  forall_ascii
    (p := fun c => ((( asciiCapitals.apply? c.toNat).map Char.ofNat).getD c) = c.toLower)
    (by decide) hc

theorem lowerChar_of_ascii (hc : c.toNat < 128) : lowerChar c = [c.toLower] := by
  have hexpansions : ∀ e ∈ lowerExpansions, 128 ≤ e.1 := fun e he => (lowerExpansions_spec e he).1
  rw [lowerChar, lowerRuns_eq, mapCase_of_ascii lowerRuns_above hexpansions hc,
    getD_asciiCapitals hc]

/-- Over ASCII nothing depends on what stands before or behind a character. -/
theorem lowerCharsAfter_of_ascii {cs : List Char} (h : ∀ c ∈ cs, c.toNat < 128)
    (before : List Char) : lowerCharsAfter before cs = cs.map Char.toLower := by
  induction cs generalizing before with
  | nil => rfl
  | cons c cs ih =>
    rw [List.forall_mem_cons] at h
    have hsigma : c ≠ 'Σ' := by
      rintro rfl
      exact absurd h.1 (by decide)
    rw [lowerCharsAfter, if_neg hsigma, lowerChar_of_ascii h.1, ih h.2]
    rfl

theorem lower_of_isAscii {s : String} (h : IsAscii s) : lower s = asciiLower s := by
  rw [lower, lowerCharsAfter_of_ascii h, asciiLower]

theorem mapCase_ne_nil {runs : List CaseRun} {expansions : List (Nat × List Nat)}
    (h : ∀ e ∈ expansions, e.2 ≠ []) (c : Char) : mapCase runs expansions c ≠ [] := by
  rw [mapCase]
  split
  · simp
  · split
    · rename_i ns hns
      obtain ⟨before, after, hmem, -⟩ := List.lookup_eq_some_iff.1 hns
      have hne := h (c.toNat, ns) (by simp [hmem])
      simpa using hne
    · simp

theorem lowerChar_ne_nil (c : Char) : lowerChar c ≠ [] :=
  mapCase_ne_nil (fun e he => (lowerExpansions_spec e he).2) c

theorem lower_eq_empty_iff {s : String} : lower s = "" ↔ s = "" := by
  rw [← String.toList_eq_nil_iff, ← String.toList_eq_nil_iff, lower, String.toList_ofList]
  cases s.toList with
  | nil => simp [lowerCharsAfter]
  | cons c cs =>
    rw [lowerCharsAfter, List.append_eq_nil_iff]
    refine iff_of_false (fun h => ?_) (by simp)
    revert h
    split
    · split <;> simp
    · exact fun h => lowerChar_ne_nil c h.1

/-! ## Closure -/

namespace IsAscii

variable {s : String}

theorem append {t : String} (hs : IsAscii s) (ht : IsAscii t) : IsAscii (s ++ t) := by
  intro c hc
  rw [String.toList_append, List.mem_append] at hc
  exact hc.elim (hs c) (ht c)

theorem strip (h : IsAscii s) : IsAscii (strip s) :=
  fun c hc => h c ((strip_isInfix s).subset hc)

theorem asciiUpper (h : IsAscii s) : IsAscii (asciiUpper s) := by
  intro c hc
  rw [toList_asciiUpper, List.mem_map] at hc
  obtain ⟨d, hd, rfl⟩ := hc
  exact toNat_toUpper_lt (h d hd)

theorem asciiLower_asciiUpper (h : IsAscii s) :
    asciiLower (Text.asciiUpper s) = asciiLower s := by
  unfold asciiLower
  rw [toList_asciiUpper, List.map_map]
  exact congrArg String.ofList (List.map_congr_left fun c hc => toLower_toUpper (h c hc))

end IsAscii

end TableSql.Text
