import Mathlib.Data.List.Forall2
import TableSql.Dialect

/-!
# Texts put together from pieces

What goes over from two pieces to the text in which they follow each other goes over to joined
lists of them.

* `intercalate_forall₂`, `intercalate_induction` — pieces with a separator between them.
* `isDigit_of_mem_toString` — the characters of a number.
* `doubled_eq_self`, `not_mem_quoteNames` — the characters of quoted texts and names.
-/

set_option autoImplicit false

namespace TableSql

/-! ## Joined pieces -/

theorem Text.forall₂_map_map {α β γ : Type} {R : β → γ → Prop} {f : α → β} {g : α → γ}
    {as : List α} : List.Forall₂ R (as.map f) (as.map g) ↔ ∀ a ∈ as, R (f a) (g a) := by
  rw [List.forall₂_map_left_iff, List.forall₂_map_right_iff, List.forall₂_same]

section Joined

variable {sep : String} {pieces : List String}

/-- Pieces that each have a list of something have all of it when they are joined. -/
theorem Text.intercalate_forall₂ {α : Type} {R : String → List α → Prop} (hnil : R "" [])
    (hjoin : ∀ {a b as bs}, R a as → R b bs → R (a ++ sep ++ b) (as ++ bs)) {ass : List (List α)}
    (h : List.Forall₂ R pieces ass) : R (sep.intercalate pieces) ass.flatten := by
  induction h with
  | nil => exact hnil
  | cons hp htail ih =>
    cases htail with
    | nil => simpa using hp
    | cons hq htail' =>
      rw [String.intercalate_cons_cons, List.flatten_cons]
      exact hjoin hp ih

theorem Text.intercalate_induction {P : String → Prop} (hnil : P "")
    (hjoin : ∀ {a b}, P a → P b → P (a ++ sep ++ b)) (h : ∀ piece ∈ pieces, P piece) :
    P (sep.intercalate pieces) := by
  have hall : List.Forall₂ (fun piece (_ : List Unit) => P piece) pieces
      (pieces.map fun _ => []) := by
    rw [List.forall₂_map_right_iff, List.forall₂_same]
    exact h
  exact intercalate_forall₂ (R := fun piece (_ : List Unit) => P piece) hnil hjoin hall

theorem quoteNames_induction {P : String → Prop} {d : Dialect} (hnil : P "")
    (hjoin : ∀ {a b}, P a → P b → P (a ++ ", " ++ b)) {names : List String}
    (h : ∀ name ∈ names, P (quoteName d name)) : P (quoteNames d names) :=
  Text.intercalate_induction hnil hjoin (List.forall_mem_map.2 h)

end Joined

/-! ## Characters -/

theorem Text.isDigit_of_mem_toString {n : Nat} {c : Char} (h : c ∈ (toString n).toList) :
    c.isDigit = true := by
  rw [Nat.toString_eq_repr, Nat.toList_repr] at h
  exact Nat.isDigit_of_mem_toDigits (by decide) (by decide) h

section Quoted

variable {quote c : Char} {cs : List Char}

theorem Text.doubled_eq_self (h : quote ∉ cs) : Text.doubled quote cs = cs := by
  induction cs with
  | nil => rfl
  | cons c cs ih =>
    rw [List.mem_cons, not_or] at h
    rw [Text.doubled, if_neg (Ne.symm h.1), ih h.2]

theorem Text.mem_of_mem_doubled (h : c ∈ Text.doubled quote cs) : c ∈ cs := by
  induction cs with
  | nil => exact h
  | cons d cs ih =>
    rw [Text.doubled] at h
    split at h
    · rename_i hd
      subst hd
      rw [List.mem_cons, List.mem_cons] at h
      rcases h with rfl | rfl | h
      · exact List.mem_cons_self ..
      · exact List.mem_cons_self ..
      · exact List.mem_cons_of_mem d (ih h)
    · rw [List.mem_cons] at h
      rcases h with rfl | h
      · exact List.mem_cons_self ..
      · exact List.mem_cons_of_mem d (ih h)

theorem not_mem_quoteName {d : Dialect} (hc : c ≠ d.nameQuote) {name : String}
    (h : c ∉ name.toList) : c ∉ (quoteName d name).toList := by
  rw [toList_quoteName, Text.enclosedChars]
  simp only [List.mem_cons, List.mem_append, List.not_mem_nil, or_false, not_or]
  exact ⟨hc, fun hm => h (Text.mem_of_mem_doubled hm), hc⟩

theorem not_mem_quoteNames {d : Dialect} (hc : c ≠ d.nameQuote) (hsep : c ∉ ", ".toList)
    {names : List String} (h : ∀ name ∈ names, c ∉ name.toList) :
    c ∉ (quoteNames d names).toList := by
  refine quoteNames_induction (P := fun s => c ∉ s.toList) (by simp) (fun {a b} ha hb => ?_)
    fun name hname => not_mem_quoteName hc (h name hname)
  rw [String.toList_append, String.toList_append, List.mem_append, List.mem_append]
  rintro ((hm | hm) | hm)
  · exact ha hm
  · exact hsep hm
  · exact hb hm

end Quoted

end TableSql
