import Mathlib.Data.List.Infix
import TableSql.Text.Blank
import TableSql.Text.Quoted
import TableSql.Text.Search

/-!
# Where words can stand in a text that is put together

A text is put together from fixed parts and from others that may hold anything. Between two fixed
parts a word can only stand in what is filled in, if the fixed parts are chosen well.

* `Holds` — one of some words stands in a text.
* `Opens`, `Closes` — no word reaches into a text from before, none out of it at its end.
* `Gap` — a fixed part that holds no word and that no word reaches into, out of or across.

Principal results: `holds_append_of_opens`, `holds_append_of_closes` (no word stands across such a
place), `Gap.holds_around` (nor across a fixed part), `Opens.append` and `holds_doubled` (doubling a
mark neither makes nor breaks a word), `Padded.isInfix_iff` (nor does white space around a text).
-/

set_option autoImplicit false

namespace TableSql.Text

/-- One of some words stands in a text. -/
def Holds (words : List (List Char)) (cs : List Char) : Prop := ∃ word ∈ words, word <:+: cs

/-- No word that begins before a text goes on into it and ends there. -/
def Opens (words : List (List Char)) (cs : List Char) : Prop :=
  ∀ word ∈ words, ∀ i < word.length, 0 < i → ¬ word.drop i <+: cs

/-- No word that begins in a text goes on behind it. -/
def Closes (words : List (List Char)) (cs : List Char) : Prop :=
  ∀ word ∈ words, ∀ i < word.length, 0 < i → ¬ word.take i <:+ cs

/-- A text that holds no word and that no word reaches into, out of or across. -/
structure Gap (words : List (List Char)) (cs : List Char) : Prop where
  silent : ¬ Holds words cs
  opens : Opens words cs
  across : ∀ word ∈ words, ∀ i < word.length, 0 < i → ¬ cs <+: word.drop i
  closes : Closes words cs

theorem holds_iff_any {words : List (List Char)} {cs : List Char} :
    words.any (occursChars · cs) = true ↔ Holds words cs := by
  simp only [List.any_eq_true, occursChars_iff, Holds, List.IsInfix]
  simp only [eq_comm]

instance (words : List (List Char)) (cs : List Char) : Decidable (Holds words cs) :=
  decidable_of_iff _ holds_iff_any

instance (words : List (List Char)) (cs : List Char) : Decidable (Opens words cs) :=
  List.decidableBAll _ words

instance (words : List (List Char)) (cs : List Char) : Decidable (Closes words cs) :=
  List.decidableBAll _ words

instance (words : List (List Char)) (cs : List Char) : Decidable (Gap words cs) :=
  have : Decidable (∀ word ∈ words, ∀ i < word.length, 0 < i → ¬ cs <+: word.drop i) :=
    List.decidableBAll _ words
  decidable_of_iff (¬ Holds words cs ∧ Opens words cs ∧
      (∀ word ∈ words, ∀ i < word.length, 0 < i → ¬ cs <+: word.drop i) ∧ Closes words cs)
    ⟨fun ⟨silent, opens, across, closes⟩ => ⟨silent, opens, across, closes⟩,
      fun h => ⟨h.silent, h.opens, h.across, h.closes⟩⟩

variable {words : List (List Char)} {a b : List Char}

theorem holds_append_words {words' : List (List Char)} {cs : List Char} :
    Holds (words ++ words') cs ↔ Holds words cs ∨ Holds words' cs := by
  simp only [Holds, List.mem_append, or_and_right, exists_or]

/-! ## Two texts -/

theorem Holds.append_left (h : Holds words b) (a : List Char) : Holds words (a ++ b) := by
  obtain ⟨word, hword, hb⟩ := h
  exact ⟨word, hword, List.infix_append_of_infix_right hb⟩

theorem Holds.append_right (h : Holds words a) (b : List Char) : Holds words (a ++ b) := by
  obtain ⟨word, hword, ha⟩ := h
  exact ⟨word, hword, List.infix_append_of_infix_left ha⟩

/-- A word in two texts that follow each other stands in one of them or across the place where they
meet. -/
theorem holds_append_iff :
    Holds words (a ++ b) ↔ (Holds words a ∨ Holds words b) ∨
      ∃ word ∈ words, ∃ i < word.length, 0 < i ∧ word.take i <:+ a ∧ word.drop i <+: b := by
  constructor
  · rintro ⟨word, hword, hinfix⟩
    rcases List.infix_append_iff.1 hinfix with ha | hb | ⟨p, q, rfl, hp, hq⟩
    · exact .inl (.inl ⟨word, hword, ha⟩)
    · exact .inl (.inr ⟨word, hword, hb⟩)
    · by_cases hpn : p = []
      · subst hpn
        exact .inl (.inr ⟨_, hword, hq.isInfix⟩)
      by_cases hqn : q = []
      · subst hqn
        exact .inl (.inl ⟨_, hword, by simpa using hp.isInfix⟩)
      refine .inr ⟨_, hword, p.length, ?_, List.length_pos_iff.2 hpn, by simpa, by simpa⟩
      have := List.length_pos_iff.2 hqn
      rw [List.length_append]
      omega
  · rintro ((ha | hb) | ⟨word, hword, i, -, -, hp, hq⟩)
    · exact ha.append_right b
    · exact hb.append_left a
    · refine ⟨word, hword, List.infix_append_iff.2 (.inr (.inr ⟨_, _, ?_, hp, hq⟩))⟩
      rw [List.take_append_drop]

/-- **No word stands across the beginning of a text into which none reaches.** -/
theorem holds_append_of_opens (h : Opens words b) :
    Holds words (a ++ b) ↔ Holds words a ∨ Holds words b := by
  rw [holds_append_iff]
  refine or_iff_left ?_
  rintro ⟨word, hword, i, hi, hpos, -, hq⟩
  exact h word hword i hi hpos hq

/-- **No word stands across the end of a text out of which none reaches.** -/
theorem holds_append_of_closes (h : Closes words a) :
    Holds words (a ++ b) ↔ Holds words a ∨ Holds words b := by
  rw [holds_append_iff]
  refine or_iff_left ?_
  rintro ⟨word, hword, i, hi, hpos, hp, -⟩
  exact h word hword i hi hpos hp

/-- Behind a text out of which words reach with the same rest only, that rest makes a word. -/
theorem holds_append_of_rest {rest : List Char} (ha : ¬ Holds words a)
    (hrest : ∀ word ∈ words, ∀ i < word.length, 0 < i → word.take i <:+ a → word.drop i = rest)
    (hreach : ∃ word ∈ words, word <:+ a ++ rest) :
    Holds words (a ++ b) ↔ rest <+: b ∨ Holds words b := by
  constructor
  · rw [holds_append_iff]
    rintro ((h | h) | ⟨word, hword, i, hi, hpos, hp, hq⟩)
    · exact absurd h ha
    · exact .inr h
    · exact .inl (hrest word hword i hi hpos hp ▸ hq)
  · rintro (⟨more, rfl⟩ | h)
    · obtain ⟨word, hword, hsuffix⟩ := hreach
      rw [← List.append_assoc]
      exact Holds.append_right ⟨word, hword, hsuffix.isInfix⟩ more
    · exact h.append_left a

theorem opens_nil : Opens words [] := by
  intro word _ i hi _ hnil
  have := List.prefix_nil.1 hnil
  rw [List.drop_eq_nil_iff] at this
  omega

/-- What reaches through the first text and into the second one is begun before the second one. -/
theorem Opens.append (ha : Opens words a) (hb : Opens words b) : Opens words (a ++ b) := by
  intro word hword i hi hpos hq
  rcases List.prefix_or_prefix_of_prefix hq (List.prefix_append a b) with hqa | haq
  · exact ha word hword i hi hpos hqa
  · obtain ⟨rest, hrest⟩ := haq
    have hdrop : rest = word.drop (i + a.length) := by
      rw [← List.drop_drop, ← hrest, List.drop_left]
    rw [← hrest, List.prefix_append_right_inj] at hq
    by_cases hlt : i + a.length < word.length
    · exact hb word hword _ hlt (by omega) (hdrop ▸ hq)
    · have hnil : rest = [] := by rw [hdrop, List.drop_eq_nil_iff]; omega
      rw [hnil, List.append_nil] at hrest
      exact ha word hword i hi hpos (hrest ▸ List.prefix_rfl)

/-- Whatever follows a text that no word reaches into or across, none reaches into both. -/
theorem Opens.append_of_across (h : Opens words a)
    (hacross : ∀ word ∈ words, ∀ i < word.length, 0 < i → ¬ a <+: word.drop i) (b : List Char) :
    Opens words (a ++ b) := by
  intro word hword i hi hpos hq
  rcases List.prefix_or_prefix_of_prefix hq (List.prefix_append a b) with hqa | haq
  · exact h word hword i hi hpos hqa
  · exact hacross word hword i hi hpos haq

namespace Gap

/-- Whatever follows a fixed part, no word reaches into it from before. -/
theorem opens_append (h : Gap words a) (b : List Char) : Opens words (a ++ b) :=
  h.opens.append_of_across h.across b

theorem holds_append (h : Gap words a) : Holds words (a ++ b) ↔ Holds words b := by
  rw [holds_append_of_closes h.closes]
  exact or_iff_right h.silent

/-- **A word in two texts with a fixed part between them stands in one of the two.** -/
theorem holds_around (h : Gap words a) (before : List Char) :
    Holds words (before ++ (a ++ b)) ↔ Holds words before ∨ Holds words b := by
  rw [holds_append_of_opens (h.opens_append b), h.holds_append]

end Gap

/-! ## Doubled marks -/

/-- **Doubling a mark neither makes nor breaks a word,** if no word has the mark in it; the texts may
be changed character by character, as long as the mark is not. -/
theorem holds_doubled {quote : Char} {f : Char → List Char} (hf : f quote = [quote])
    (hgap : Gap words [quote]) (before cs : List Char) :
    Holds words (before ++ (doubled quote cs).flatMap f) ↔
      Holds words (before ++ cs.flatMap f) := by
  induction cs generalizing before with
  | nil => rfl
  | cons c cs ih =>
    by_cases hc : c = quote
    · subst hc
      have hrest := ih []
      rw [List.nil_append, List.nil_append] at hrest
      simp only [doubled, if_true, List.flatMap_cons, hf, hgap.holds_around, hgap.holds_append,
        hrest]
    · rw [doubled, if_neg hc, List.flatMap_cons, List.flatMap_cons, ← List.append_assoc,
        ← List.append_assoc]
      exact ih (before ++ f c)

/-! ## White space around a text -/

section Blank

variable {word : List Char} (hword : ∀ c ∈ word, isBlank c = false)

include hword

theorem eq_nil_of_subset_allBlank {part : List Char} (hpart : part ⊆ word) (ha : AllBlank a)
    (hsub : part ⊆ a) : part = [] := by
  rw [List.eq_nil_iff_forall_not_mem]
  intro c hc
  have hblank := ha c (hsub hc)
  rw [hword c (hpart hc)] at hblank
  cases hblank

theorem isInfix_allBlank_append (ha : AllBlank a) : word <:+: a ++ b ↔ word <:+: b := by
  refine ⟨fun h => ?_, List.infix_append_of_infix_right⟩
  rcases List.infix_append_iff.1 h with hin | hb | ⟨p, q, rfl, hp, hq⟩
  · rw [eq_nil_of_subset_allBlank hword (List.Subset.refl _) ha hin.subset]
    exact List.nil_infix
  · exact hb
  · rw [eq_nil_of_subset_allBlank hword (List.subset_append_left p q) ha hp.subset]
    exact hq.isInfix

theorem isInfix_append_allBlank (hb : AllBlank b) : word <:+: a ++ b ↔ word <:+: a := by
  refine ⟨fun h => ?_, List.infix_append_of_infix_left⟩
  rcases List.infix_append_iff.1 h with ha | hin | ⟨p, q, rfl, hp, hq⟩
  · exact ha
  · rw [eq_nil_of_subset_allBlank hword (List.Subset.refl _) hb hin.subset]
    exact List.nil_infix
  · rw [eq_nil_of_subset_allBlank hword (List.subset_append_right p q) hb hq.subset,
      List.append_nil]
    exact hp.isInfix

/-- **A word without white space stands in a text if it stands in what is left of the text without
the white space around it.** -/
theorem Padded.isInfix_iff {core cs : List Char} (h : Padded core cs) :
    word <:+: cs ↔ word <:+: core := by
  obtain ⟨before, after, hbefore, hafter, rfl⟩ := h
  rw [isInfix_allBlank_append hword hbefore, isInfix_append_allBlank hword hafter]

end Blank

theorem Padded.mem_iff {core cs : List Char} (h : Padded core cs) {c : Char}
    (hc : isBlank c = false) : c ∈ cs ↔ c ∈ core := by
  rw [← List.singleton_infix_iff, ← List.singleton_infix_iff]
  exact h.isInfix_iff fun d hd => List.eq_of_mem_singleton hd ▸ hc

end TableSql.Text
