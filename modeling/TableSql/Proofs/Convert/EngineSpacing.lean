import TableSql.Proofs.Convert.DetectMysql

/-!
# White space around the sign of the engine

A clause for the engine may have its equals sign between spaces. Of the clauses that the detection
of a dialect looks for, the one of Doris is known in both spellings, the one for InnoDB is not.

* `EngineSpaced` — behind some of the words ENGINE the equals sign is put between spaces.
* `HasUniqueKey`, `NamesInnodb` — what tells a statement of MySQL with a unique key.

Principal results: `EngineSpaced.holds_iff` (clauses for other things neither come nor go),
`EngineSpaced.holds_olapWords_iff` (nor does the clause of Doris for the engine, in its two spellings),
and from them when the dialect stays the same.
-/

set_option autoImplicit false

namespace TableSql

/-- The word ENGINE with an equals sign. -/
def engineSign : List Char := ['E', 'N', 'G', 'I', 'N', 'E', '=']

/-- The word ENGINE with an equals sign between spaces. -/
def engineSpacedSign : List Char := ['E', 'N', 'G', 'I', 'N', 'E', ' ', '=', ' ']

/-- Behind some of the words ENGINE, in any letter case, that have an equals sign right behind them,
the sign is put between spaces; all else stays as it is. -/
inductive EngineSpaced : List Char → List Char → Prop where
  | nil : EngineSpaced [] []
  | keep (c : Char) {cs ds : List Char} : EngineSpaced cs ds → EngineSpaced (c :: cs) (c :: ds)
  | space {word cs ds : List Char} : word.map Char.toUpper = ['E', 'N', 'G', 'I', 'N', 'E'] →
    EngineSpaced cs ds → EngineSpaced (word ++ '=' :: cs) (word ++ ' ' :: '=' :: ' ' :: ds)

namespace EngineSpaced

theorem append_left {cs ds : List Char} (h : EngineSpaced cs ds) (before : List Char) :
    EngineSpaced (before ++ cs) (before ++ ds) := by
  induction before with
  | nil => exact h
  | cons c before ih => exact ih.keep c

theorem refl (cs : List Char) : EngineSpaced cs cs := by
  simpa using append_left nil cs

end EngineSpaced

/-! ## In upper case -/

/-- Characters that have ASCII ones as their upper case have no other upper case. -/
theorem upperChars_of_map_toUpper {cs ds : List Char} (h : cs.map Char.toUpper = ds)
    (hds : ∀ d ∈ ds, d.toNat < 128) : Text.upperChars cs = ds := by
  have hcs : ∀ c ∈ cs, c.toNat < 128 := by
    intro c hc
    by_contra hnot
    have := hds c.toUpper (h ▸ List.mem_map_of_mem hc)
    rw [Text.toUpper_of_not_ascii hnot] at this
    exact hnot this
  rw [← h, ← String.toList_ofList (l := cs)]
  exact upperChars_of_isAscii (by rwa [Text.IsAscii, String.toList_ofList])

section Upper

variable {word : List Char} (hword : word.map Char.toUpper = ['E', 'N', 'G', 'I', 'N', 'E'])

include hword

theorem upperChars_sign (cs : List Char) :
    Text.upperChars (word ++ '=' :: cs) = engineSign ++ Text.upperChars cs := by
  have hsign : Text.upperChars (word ++ ['=']) = engineSign :=
    upperChars_of_map_toUpper (by rw [List.map_append, hword]; rfl) (by simp [engineSign])
  rw [← List.singleton_append, ← List.append_assoc, Text.upperChars_append, hsign]

theorem upperChars_spacedSign (cs : List Char) :
    Text.upperChars (word ++ ' ' :: '=' :: ' ' :: cs) =
      engineSpacedSign ++ Text.upperChars cs := by
  have hsign : Text.upperChars (word ++ [' ', '=', ' ']) = engineSpacedSign :=
    upperChars_of_map_toUpper (by rw [List.map_append, hword]; rfl) (by simp [engineSpacedSign])
  rw [← hsign, ← Text.upperChars_append, List.append_assoc]
  rfl

end Upper

/-- **What holds of a text and itself, and is kept where a sign with a text before it gets its spaces,
holds of the upper case of both texts.** -/
theorem EngineSpaced.upper_induction {motive : List Char → List Char → Prop}
    (hrefl : ∀ us, motive us us)
    (hspace : ∀ (before : List Char) {cs ds : List Char}, EngineSpaced cs ds →
      motive (Text.upperChars cs) (Text.upperChars ds) →
      motive (before ++ (engineSign ++ Text.upperChars cs))
        (before ++ (engineSpacedSign ++ Text.upperChars ds)))
    {cs ds : List Char} (h : EngineSpaced cs ds) :
    motive (Text.upperChars cs) (Text.upperChars ds) := by
  -- a character that is kept goes to the text before the next sign
  have hbefore (before : List Char) :
      motive (before ++ Text.upperChars cs) (before ++ Text.upperChars ds) := by
    induction h generalizing before with
    | nil => exact hrefl _
    | keep c _ ih =>
      have := ih (before ++ Text.upperChar c)
      rwa [List.append_assoc, List.append_assoc] at this
    | space hword hrest ih =>
      rw [upperChars_sign hword, upperChars_spacedSign hword]
      exact hspace before hrest (ih [])
  exact hbefore []

/-! ## Which clauses stay -/

/-- A text without a character ends before that character. -/
theorem isPrefix_append_cons_iff {c : Char} {part : List Char} (hc : c ∉ part)
    (before more : List Char) : part <+: before ++ c :: more ↔ part <+: before := by
  refine ⟨fun h => ?_, List.prefix_append_of_prefix⟩
  rcases List.prefix_or_prefix_of_prefix h (List.prefix_append _ _) with hpart | ⟨rest, rfl⟩
  · exact hpart
  · rw [List.prefix_append_right_inj] at h
    cases rest with
    | nil => rw [List.append_nil]
    | cons d rest =>
      rw [(List.cons_prefix_cons.1 h).1] at hc
      exact absurd (List.mem_append_right _ List.mem_cons_self) hc

def olap : List Char := ['O', 'L', 'A', 'P']

/-- The clause of Doris for the engine, in its two spellings. -/
def olapWords : List (List Char) := [engineSign ++ olap, engineSpacedSign ++ olap]

/-- Behind a sign that a clause for the engine begins with, only the name is wanted. -/
theorem holds_olapWords_append {sign : List Char}
    (hsign : sign ∈ [engineSign, engineSpacedSign]) (before us : List Char) :
    Text.Holds olapWords (before ++ (sign ++ us)) ↔
      Text.Holds olapWords before ∨ olap <+: us ∨ Text.Holds olapWords us := by
  have hopens : ∀ sign ∈ [engineSign, engineSpacedSign], Text.Opens olapWords sign ∧
      ∀ word ∈ olapWords, ∀ i < word.length, 0 < i → ¬ sign <+: word.drop i := by decide
  have hrest : ∀ sign ∈ [engineSign, engineSpacedSign], ¬ Text.Holds olapWords sign ∧
      (∀ word ∈ olapWords, ∀ i < word.length, 0 < i → word.take i <:+ sign →
        word.drop i = olap) ∧ ∃ word ∈ olapWords, word <:+ sign ++ olap := by decide
  rw [Text.holds_append_of_opens ((hopens sign hsign).1.append_of_across (hopens sign hsign).2 us),
    Text.holds_append_of_rest (hrest sign hsign).1 (hrest sign hsign).2.1 (hrest sign hsign).2.2]

namespace EngineSpaced

variable {words : List (List Char)} {cs ds : List Char}

/-- **A clause that neither spelling of the sign can take part in neither comes nor goes.** -/
theorem holds_iff (hsign : Text.Gap words engineSign) (hspaced : Text.Gap words engineSpacedSign)
    (h : EngineSpaced cs ds) :
    Text.Holds words (Text.upperChars cs) ↔ Text.Holds words (Text.upperChars ds) := by
  refine upper_induction (motive := fun us vs => Text.Holds words us ↔ Text.Holds words vs)
    (fun _ => Iff.rfl) ?_ h
  intro before cs ds _ hrest
  rw [hsign.holds_around, hspaced.holds_around, hrest]

/-- A clause that the sign between spaces cannot take part in does not come. -/
theorem holds_of_spaced (hspaced : Text.Gap words engineSpacedSign) (h : EngineSpaced cs ds) :
    Text.Holds words (Text.upperChars ds) → Text.Holds words (Text.upperChars cs) := by
  refine upper_induction (motive := fun us vs => Text.Holds words vs → Text.Holds words us)
    (fun _ => id) ?_ h
  intro before cs ds _ hrest hds
  rw [hspaced.holds_around] at hds
  rcases hds with hbefore | hds
  · exact hbefore.append_right _
  · exact ((hrest hds).append_left _).append_left _

theorem isPrefix_iff {part : List Char} (hpart : 'E' ∉ part) (h : EngineSpaced cs ds) :
    part <+: Text.upperChars cs ↔ part <+: Text.upperChars ds := by
  refine upper_induction (motive := fun us vs => part <+: us ↔ part <+: vs)
    (fun _ => Iff.rfl) ?_ h
  intro before cs ds _ _
  unfold engineSign engineSpacedSign
  rw [List.cons_append, isPrefix_append_cons_iff hpart, List.cons_append,
    isPrefix_append_cons_iff hpart]

/-- **The clause of Doris for the engine changes its spelling only.** -/
theorem holds_olapWords_iff (h : EngineSpaced cs ds) :
    Text.Holds olapWords (Text.upperChars cs) ↔ Text.Holds olapWords (Text.upperChars ds) := by
  refine upper_induction
    (motive := fun us vs => Text.Holds olapWords us ↔ Text.Holds olapWords vs)
    (fun _ => Iff.rfl) ?_ h
  intro before cs ds hspaced hrest
  rw [holds_olapWords_append (by simp), holds_olapWords_append (by simp), hrest,
    hspaced.isPrefix_iff (by decide)]

end EngineSpaced

/-! ## Statements -/

/-- A statement has a unique key, in any letter case. -/
def HasUniqueKey (s : String) : Prop := Text.occursIn "UNIQUE KEY" (Text.upper s) = true

/-- A statement names InnoDB right behind the equals sign of the engine, in any letter case. -/
def NamesInnodb (s : String) : Prop := Text.occursIn "ENGINE=INNODB" (Text.upper s) = true

theorem occursIn_upper_iff {word s : String} : Text.occursIn word (Text.upper s) = true ↔
    Text.Holds [word.toList] (Text.upperChars s.toList) := by
  rw [Text.occursIn_iff_isInfix, Text.upper, String.toList_ofList]
  simp only [Text.Holds, List.mem_singleton, exists_eq_left]

/-- Two dialects are told apart, so that one of them decides. -/
theorem detectDialect_eq_iff {s t : String} : detectDialect t = detectDialect s ↔
    (detectDialect t = .mysql ↔ detectDialect s = .mysql) := by
  have htwo (s : String) : detectDialect s = .mysql ∨ detectDialect s = .doris := by
    unfold detectDialect
    simp only
    split
    · exact .inr rfl
    · exact .inl rfl
  rcases htwo s with hs | hs <;> rcases htwo t with ht | ht <;> simp [hs, ht]

section Statement

variable {s t : String} (h : EngineSpaced s.toList t.toList)

include h

theorem showsDoris_spaced_iff : ShowsDoris t ↔ ShowsDoris s := by
  have hwords : dorisWords = olapWords ++ dorisWords.drop 2 := by decide
  have hsign : Text.Gap (dorisWords.drop 2) engineSign := by decide
  have hspaced : Text.Gap (dorisWords.drop 2) engineSpacedSign := by decide
  rw [ShowsDoris, ShowsDoris, hwords, Text.holds_append_words, Text.holds_append_words,
    h.holds_olapWords_iff, h.holds_iff hsign hspaced]

theorem hasUniqueKey_spaced_iff : HasUniqueKey t ↔ HasUniqueKey s := by
  rw [HasUniqueKey, HasUniqueKey, occursIn_upper_iff, occursIn_upper_iff]
  exact (h.holds_iff (by decide) (by decide)).symm

theorem namesInnodb_of_spaced (ht : NamesInnodb t) : NamesInnodb s := by
  rw [NamesInnodb, occursIn_upper_iff] at ht ⊢
  exact h.holds_of_spaced (by decide) ht

/-- **Putting the sign of the engine between spaces keeps the dialect unless InnoDB decides it:**
it changes for a statement with a unique key and without a clause of Doris that names InnoDB right
behind some sign before, and behind none any more. -/
theorem detectDialect_spaced_iff :
    detectDialect t = detectDialect s ↔
      (ShowsDoris s ∨ ¬ HasUniqueKey s) ∨ (NamesInnodb s → NamesInnodb t) := by
  have hs : detectDialect s = .mysql ↔ ¬ ShowsDoris s ∧ (HasUniqueKey s → NamesInnodb s) :=
    detectDialect_eq_mysql_iff
  have ht : detectDialect t = .mysql ↔ ¬ ShowsDoris s ∧ (HasUniqueKey s → NamesInnodb t) := by
    rw [← showsDoris_spaced_iff h, ← hasUniqueKey_spaced_iff h]
    exact detectDialect_eq_mysql_iff
  have hnames := namesInnodb_of_spaced h
  rw [detectDialect_eq_iff, hs, ht]
  clear hs ht
  generalize ShowsDoris s = shows, HasUniqueKey s = key, NamesInnodb s = named,
    NamesInnodb t = named' at hnames ⊢
  tauto

end Statement

theorem EngineSpaced.of_append (before after : String) {word : String}
    (hword : word.toList.map Char.toUpper = ['E', 'N', 'G', 'I', 'N', 'E']) :
    EngineSpaced (before ++ word ++ "=" ++ after).toList
      (before ++ word ++ " = " ++ after).toList := by
  simp only [String.toList_append, List.append_assoc]
  exact (EngineSpaced.space hword (EngineSpaced.refl after.toList)).append_left before.toList

/-- Of two places that name InnoDB the one in a comment is left as it is. -/
theorem detectDialect_spaced_iff_comment :
    let before := "create table t (id int, unique key uk (id)) "
    let after := "InnoDB comment='was Engine=InnoDB'"
    let s := before ++ "engine" ++ "=" ++ after
    let t := before ++ "engine" ++ " = " ++ after
    EngineSpaced s.toList t.toList ∧ detectDialect t = detectDialect s := by
  intro before after s t
  have hspaced : EngineSpaced s.toList t.toList := EngineSpaced.of_append before after (by decide)
  have hnamed : NamesInnodb t := by
    unfold NamesInnodb
    rw [Text.upper_of_isAscii (by decide)]
    decide +kernel
  exact ⟨hspaced, (detectDialect_spaced_iff hspaced).2 (.inr fun _ => hnamed)⟩

/-- Between spaces the sign hides InnoDB, and a statement of MySQL is told for one of Doris. -/
theorem detectDialect_innodb_spaced :
    let before := "CREATE TABLE t (id INT, UNIQUE KEY uk (id)) "
    let s := before ++ "ENGINE" ++ "=" ++ "InnoDB"
    let t := before ++ "ENGINE" ++ " = " ++ "InnoDB"
    EngineSpaced s.toList t.toList ∧ detectDialect s = .mysql ∧ detectDialect t = .doris := by
  intro before s t
  have hspaced : EngineSpaced s.toList t.toList :=
    EngineSpaced.of_append before "InnoDB" (by decide)
  have hs : Text.IsAscii s := by decide
  have ht : Text.IsAscii t := by decide
  refine ⟨hspaced, ?_, ?_⟩
  · unfold detectDialect
    rw [Text.upper_of_isAscii hs]
    decide +kernel
  · unfold detectDialect
    rw [Text.upper_of_isAscii ht]
    decide +kernel

end TableSql
