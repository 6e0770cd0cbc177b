/-!
# White space

* `isBlank` — the characters with the Unicode property White_Space.
* `strip` — a text without the white space at both ends.
* `isBlankText` — a text that holds white space only.
* `Stripped` — characters with no white space at either end.
* `AllBlank`, `Padded` — white space only, and characters with white space around them.

Main statements: `stripChars_eq_nil_iff` (nothing is left exactly of blank text),
`head_stripChars` (what is left starts with a character that is not blank), `strip_isInfix`
(stripping cuts a text out of a text), `Stripped.stripChars` and `Stripped.stripChars_eq` (stripped
is what stripping leaves), `exists_append_stripFront` and `exists_stripBack_append` (what it takes
away is white space).
-/

set_option autoImplicit false

namespace TableSql.Text

/-- The characters with the Unicode property White_Space. -/
def isBlank (c : Char) : Bool :=
  let n := c.toNat
  (9 ≤ n && n ≤ 13) || n == 0x20 || n == 0x85 || n == 0xA0 || n == 0x1680 ||
    (0x2000 ≤ n && n ≤ 0x200A) || n == 0x2028 || n == 0x2029 || n == 0x202F || n == 0x205F ||
    n == 0x3000

/-- Characters without the white space at the front. -/
def stripFront (cs : List Char) : List Char := cs.dropWhile isBlank

/-- Characters without the white space at the back. -/
def stripBack : List Char → List Char
  | [] => []
  | c :: cs =>
    match stripBack cs with
    | [] => if isBlank c then [] else [c]
    | rest => c :: rest

/-- Characters without the white space at both ends. -/
def stripChars (cs : List Char) : List Char := stripBack (stripFront cs)

/-- A text without the white space at both ends. -/
def strip (s : String) : String := String.ofList (stripChars s.toList)

/-- Does a text hold white space only? -/
def isBlankText (s : String) : Bool := s.toList.all isBlank

/-! ## Laws -/

theorem stripBack_eq_nil_iff (cs : List Char) : stripBack cs = [] ↔ ∀ c ∈ cs, isBlank c := by
  induction cs with
  | nil => simp [stripBack]
  | cons c cs ih =>
    rw [stripBack]
    split
    · rename_i h
      have := ih.1 h
      by_cases hc : isBlank c <;> simp [hc]
      exact this
    · rename_i h
      simp only [List.mem_cons, forall_eq_or_imp]
      constructor
      · intro h'; cases h'
      · exact fun ⟨_, h'⟩ => absurd (ih.2 h') h

theorem all_of_stripFront_eq_nil {cs : List Char} (h : stripFront cs = []) :
    ∀ c ∈ cs, isBlank c := by
  induction cs with
  | nil => simp
  | cons c cs ih =>
    by_cases hc : isBlank c
    · rw [stripFront, List.dropWhile_cons_of_pos hc] at h
      simp only [List.mem_cons, forall_eq_or_imp]
      exact ⟨hc, ih h⟩
    · rw [stripFront, List.dropWhile_cons_of_neg hc] at h
      cases h

theorem head_stripFront {cs : List Char} {c : Char} {rest : List Char}
    (h : stripFront cs = c :: rest) : isBlank c = false := by
  induction cs with
  | nil => cases h
  | cons d cs ih =>
    by_cases hd : isBlank d
    · rw [stripFront, List.dropWhile_cons_of_pos hd] at h
      exact ih h
    · rw [stripFront, List.dropWhile_cons_of_neg hd] at h
      cases h
      simpa using hd

theorem stripChars_eq_nil_iff (cs : List Char) : stripChars cs = [] ↔ ∀ c ∈ cs, isBlank c := by
  unfold stripChars
  cases h : stripFront cs with
  | nil => simpa [stripBack] using all_of_stripFront_eq_nil h
  | cons c rest =>
    have hc := head_stripFront h
    constructor
    · intro h'
      have := (stripBack_eq_nil_iff _).1 h' c (by simp)
      rw [hc] at this
      cases this
    · intro hall
      have : ∀ d ∈ cs, isBlank d := hall
      have hsub : c ∈ cs := by
        have : c ∈ stripFront cs := by rw [h]; simp
        exact List.dropWhile_subset _ this
      have := this c hsub
      rw [hc] at this
      cases this

theorem head_stripChars {cs : List Char} {c : Char} {rest : List Char}
    (h : stripChars cs = c :: rest) : isBlank c = false := by
  unfold stripChars at h
  cases hf : stripFront cs with
  | nil => rw [hf] at h; cases h
  | cons d ds =>
    have hd := head_stripFront hf
    rw [hf, stripBack] at h
    split at h
    · rw [hd] at h
      simp only [Bool.false_eq_true, if_false, List.cons.injEq] at h
      rw [← h.1]; exact hd
    · simp only [List.cons.injEq] at h
      rw [← h.1]; exact hd

theorem isBlankText_iff (s : String) : isBlankText s ↔ strip s = "" := by
  rw [strip, ← String.toList_inj, String.toList_ofList]
  simp only [isBlankText, List.all_eq_true]
  exact (stripChars_eq_nil_iff _).symm

theorem stripFront_suffix (cs : List Char) : stripFront cs <:+ cs := List.dropWhile_suffix _

theorem stripBack_isPrefix (cs : List Char) : stripBack cs <+: cs := by
  induction cs with
  | nil => exact List.prefix_rfl
  | cons c cs ih =>
    rw [stripBack]
    split
    · split
      · exact List.nil_prefix
      · exact List.cons_prefix_cons.2 ⟨rfl, List.nil_prefix⟩
    · exact List.cons_prefix_cons.2 ⟨rfl, ih⟩

theorem strip_isInfix (s : String) : (strip s).toList <:+: s.toList := by
  rw [strip, String.toList_ofList, stripChars]
  exact (stripBack_isPrefix _).isInfix.trans (stripFront_suffix _).isInfix

/-! ## Stripped text -/

/-- Characters with no white space at either end. -/
structure Stripped (cs : List Char) : Prop where
  front : ∀ c, cs.head? = some c → isBlank c = false
  back : ∀ c, cs.getLast? = some c → isBlank c = false

theorem stripped_iff {cs : List Char} :
    Stripped cs ↔ cs.head?.all (!isBlank ·) = true ∧ cs.getLast?.all (!isBlank ·) = true := by
  simp only [Option.all_eq_true, Bool.not_eq_true']
  exact ⟨fun h => ⟨h.front, h.back⟩, fun h => ⟨h.1, h.2⟩⟩

instance (cs : List Char) : Decidable (Stripped cs) := decidable_of_iff _ stripped_iff.symm

theorem stripFront_eq_self {cs : List Char} (h : ∀ c, cs.head? = some c → isBlank c = false) :
    stripFront cs = cs := by
  cases cs with
  | nil => rfl
  | cons c cs =>
    have hc : isBlank c = false := h c rfl
    rw [stripFront, List.dropWhile_cons_of_neg (by simp [hc])]

theorem stripBack_eq_self {cs : List Char} (h : ∀ c, cs.getLast? = some c → isBlank c = false) :
    stripBack cs = cs := by
  induction cs with
  | nil => rfl
  | cons c cs ih =>
    cases cs with
    | nil =>
      have hc : isBlank c = false := h c rfl
      simp [stripBack, hc]
    | cons d cs =>
      have hrest : stripBack (d :: cs) = d :: cs := by
        apply ih
        intro e he
        exact h e (by simpa using he)
      rw [stripBack, hrest]

theorem getLast_stripBack (cs : List Char) :
    ∀ c, (stripBack cs).getLast? = some c → isBlank c = false := by
  induction cs with
  | nil => intro c hc; cases hc
  | cons d cs ih =>
    intro c hc
    rw [stripBack] at hc
    split at hc
    · split at hc
      · cases hc
      · rename_i hd
        obtain rfl : d = c := by simpa using hc
        simpa using hd
    · rename_i rest hne
      obtain ⟨e, rest', he⟩ := List.exists_cons_of_ne_nil hne
      rw [he, List.getLast?_cons_cons, ← he] at hc
      exact ih c hc

namespace Stripped

variable {a b : List Char}

theorem stripChars (cs : List Char) : Stripped (stripChars cs) := by
  refine ⟨?_, getLast_stripBack _⟩
  intro c hc
  obtain ⟨rest, hrest⟩ : ∃ rest, Text.stripChars cs = c :: rest := by
    cases hs : Text.stripChars cs with
    | nil => rw [hs] at hc; cases hc
    | cons d rest =>
      rw [hs] at hc
      obtain rfl : d = c := by simpa using hc
      exact ⟨rest, rfl⟩
  exact head_stripChars hrest

theorem stripChars_eq (h : Stripped a) : Text.stripChars a = a := by
  rw [Text.stripChars, stripFront_eq_self h.front, stripBack_eq_self h.back]

theorem append (ha : Stripped a) (hb : Stripped b) : Stripped (a ++ b) := by
  constructor
  · intro c hc
    cases a with
    | nil => exact hb.front c hc
    | cons d a => exact ha.front c hc
  · intro c hc
    rw [List.getLast?_append] at hc
    cases hlast : b.getLast? with
    | none =>
      rw [hlast] at hc
      exact ha.back c hc
    | some d =>
      rw [hlast] at hc
      obtain rfl : d = c := Option.some.inj hc
      exact hb.back d hlast

theorem of_forall (h : ∀ c ∈ a, isBlank c = false) : Stripped a :=
  ⟨fun c hc => h c (List.mem_of_head? hc), fun c hc => h c (List.mem_of_getLast? hc)⟩

end Stripped

/-! ## Padding -/

/-- Characters that are all white space. -/
def AllBlank (cs : List Char) : Prop := ∀ c ∈ cs, isBlank c = true

-- by the characters of the text: there is also an instance that goes through all characters
instance (cs : List Char) : Decidable (AllBlank cs) := List.decidableBAll _ cs

/-- Characters with white space around them. -/
def Padded (core cs : List Char) : Prop :=
  ∃ before after, AllBlank before ∧ AllBlank after ∧ cs = before ++ (core ++ after)

theorem Padded.refl (cs : List Char) : Padded cs cs :=
  ⟨[], [], List.forall_mem_nil _, List.forall_mem_nil _, (List.append_nil cs).symm⟩

theorem stripFront_append {a : List Char} (ha : AllBlank a) (b : List Char) :
    stripFront (a ++ b) = stripFront b :=
  List.dropWhile_append_of_pos ha

theorem stripBack_append (a : List Char) {b : List Char} (hb : AllBlank b) :
    stripBack (a ++ b) = stripBack a := by
  induction a with
  | nil => exact (stripBack_eq_nil_iff b).2 hb
  | cons c a ih => rw [List.cons_append, stripBack, stripBack, ih]

theorem exists_append_stripFront (cs : List Char) : ∃ a, AllBlank a ∧ cs = a ++ stripFront cs :=
  ⟨cs.takeWhile isBlank, List.all_eq_true.1 List.all_takeWhile,
    List.takeWhile_append_dropWhile.symm⟩

theorem exists_stripBack_append (cs : List Char) : ∃ b, AllBlank b ∧ cs = stripBack cs ++ b := by
  induction cs with
  | nil => exact ⟨[], List.forall_mem_nil _, rfl⟩
  | cons c cs ih =>
    obtain ⟨b, hb, hcs⟩ := ih
    rw [stripBack]
    split
    · rename_i hnil
      rw [hnil, List.nil_append] at hcs
      split
      · rename_i hc
        refine ⟨c :: cs, ?_, rfl⟩
        rw [hcs]
        exact List.forall_mem_cons.2 ⟨hc, hb⟩
      · exact ⟨b, hb, by rw [hcs, List.singleton_append]⟩
    · exact ⟨b, hb, congrArg (c :: ·) hcs⟩

/-- A text is what stripping leaves of it, with white space around. -/
theorem Padded.stripChars (cs : List Char) : Padded (stripChars cs) cs := by
  obtain ⟨before, hbefore, hfront⟩ := exists_append_stripFront cs
  obtain ⟨after, hafter, hback⟩ := exists_stripBack_append (stripFront cs)
  refine ⟨before, after, hbefore, hafter, ?_⟩
  rw [Text.stripChars, ← hback]
  exact hfront

end TableSql.Text
