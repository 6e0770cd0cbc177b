/-!
# Searching a text

* `occursIn` — does a text hold another one?
* `replaceAll` — every occurrence of a text, from left to right, replaced.

Main statement: `occursChars_iff` (a text is found exactly where it stands).
-/

set_option autoImplicit false

namespace TableSql.Text

/-- Do the characters `part` stand somewhere in the given ones? -/
def occursChars (part : List Char) : List Char → Bool
  | [] => part.isEmpty
  | c :: cs => part.isPrefixOf (c :: cs) || occursChars part cs

/-- Does `part` stand somewhere in `whole`? -/
def occursIn (part whole : String) : Bool := occursChars part.toList whole.toList

/-- Replaces every occurrence of `old`, which is not empty, from left to right. The first argument
counts the characters that belong to an occurrence already replaced. -/
def replaceFrom (old new : List Char) : Nat → List Char → List Char
  | _, [] => []
  | skip + 1, _ :: cs => replaceFrom old new skip cs
  | 0, c :: cs =>
    if old.isPrefixOf (c :: cs) then new ++ replaceFrom old new (old.length - 1) cs
    else c :: replaceFrom old new 0 cs

/-- A text with every occurrence of `old`, which is not empty, replaced by `new`. -/
def replaceAll (old new s : String) : String :=
  String.ofList (replaceFrom old.toList new.toList 0 s.toList)

theorem occursChars_iff (part whole : List Char) :
    occursChars part whole = true ↔ ∃ before after, whole = before ++ part ++ after := by
  induction whole with
  | nil =>
    simp only [occursChars, List.isEmpty_iff]
    constructor
    · rintro rfl; exact ⟨[], [], rfl⟩
    · rintro ⟨before, after, h⟩
      simp only [List.nil_eq, List.append_eq_nil_iff] at h
      exact h.1.2
  | cons c cs ih =>
    simp only [occursChars, Bool.or_eq_true, List.isPrefixOf_iff_prefix, ih]
    constructor
    · rintro (⟨after, h⟩ | ⟨before, after, h⟩)
      · exact ⟨[], after, by simp [h]⟩
      · exact ⟨c :: before, after, by simp [h]⟩
    · rintro ⟨before, after, h⟩
      cases before with
      | nil => exact .inl ⟨after, by simpa using h.symm⟩
      | cons d before =>
        simp only [List.cons_append, List.cons.injEq] at h
        exact .inr ⟨before, after, h.2⟩

theorem occursIn_iff_isInfix (part whole : String) :
    occursIn part whole = true ↔ part.toList <:+: whole.toList := by
  rw [occursIn, occursChars_iff]
  exact ⟨fun ⟨before, after, h⟩ => ⟨before, after, h.symm⟩,
    fun ⟨before, after, h⟩ => ⟨before, after, h.symm⟩⟩

end TableSql.Text
