import TableSql.Proofs.Text.Reader

/-!
# Quoted parts are uniquely decodable

A text between quotes is read back, whatever stands in it. A reader that also took other texts for
quoted ones would do that as well, so what it accepts is settled here, too: it is what was written,
character for character.

* `ReadsOnly` — a reader accepts nothing but what a writer makes.

Principal results: `quoted_eq_some_iff` (a quoted part is read exactly where it stands),
`readsOnly_separated` (a list of items is read nowhere but where it stands),
`quoteNames_append_inj` (lists of names in front of texts are told apart) and
`quotes_uniquely_decodable`.
-/

set_option autoImplicit false

namespace TableSql

/-- A reader accepts nothing but what a writer makes, and takes just that. -/
def ReadsOnly {α : Type} (read : Reader α) (write : α → String) : Prop :=
  ∀ cs a rest, read cs = some (a, rest) → cs = (write a).toList ++ rest

/-! ## Quoted parts -/

namespace Text

variable {quote : Char} {cs s rest : List Char}

/-- What is read up to a closing quote was written in front of it. -/
theorem eq_of_readDoubled? (h : readDoubled? quote cs = some (s, rest)) :
    cs = doubled quote s ++ quote :: rest ∧ rest.head? ≠ some quote := by
  fun_induction readDoubled? quote cs generalizing s with
  | case1 => cases h
  | case2 =>
    cases h
    simp
  | case3 => cases h
  | case4 cs ih =>
    -- a doubled quote stands for one
    obtain ⟨⟨s, rest⟩, hread, heq⟩ := Option.map_eq_some_iff.1 h
    cases heq
    obtain ⟨rfl, hrest⟩ := ih hread
    simp [doubled, hrest]
  | case5 d cs hd =>
    -- a lone one closes the text
    cases h
    simp [hd]
  | case6 c d cs hc ih =>
    obtain ⟨⟨s, rest⟩, hread, heq⟩ := Option.map_eq_some_iff.1 h
    cases heq
    obtain ⟨hcs, hrest⟩ := ih hread
    simp [doubled, hc, hcs, hrest]

theorem eq_of_readEnclosed? (h : readEnclosed? quote cs = some (s, rest)) :
    cs = enclosedChars quote s ++ rest ∧ rest.head? ≠ some quote := by
  cases cs with
  | nil => cases h
  | cons c cs =>
    rw [readEnclosed?] at h
    split at h
    · rename_i hc
      obtain ⟨rfl, hrest⟩ := eq_of_readDoubled? h
      simp [enclosedChars, hc, hrest]
    · cases h

end Text

/-- **A quoted part is read exactly where it stands, with no mark behind it.** -/
theorem quoted_eq_some_iff {mark : Char} {cs rest : List Char} {s : String} :
    Reader.quoted mark cs = some (s, rest) ↔
      cs = (Text.enclosed mark s).toList ++ rest ∧ rest.head? ≠ some mark := by
  constructor
  · intro h
    obtain ⟨⟨inside, rest⟩, hread, heq⟩ := Option.map_eq_some_iff.1 h
    cases heq
    rw [Text.enclosed, String.toList_ofList, String.toList_ofList]
    exact Text.eq_of_readEnclosed? hread
  · rintro ⟨rfl, hrest⟩
    exact readsBack_quoted mark s rest hrest

theorem readsOnly_quoted (mark : Char) : ReadsOnly (Reader.quoted mark) (Text.enclosed mark) :=
  fun _ _ _ h => (quoted_eq_some_iff.1 h).1

/-! ## Lists -/

section Lists

variable {α : Type} {read : Reader α} {write : α → String}

/-- Behind separators there is nothing, or one item and what is read behind it. -/
theorem behindSeparators_cases {sep cs rest : List Char} {as : List α}
    (h : Reader.behindSeparators read sep cs = some (as, rest)) :
    (as = [] ∧ cs = rest) ∨
      ∃ behind a more bs, cs.dropPrefix? sep = some behind ∧ read behind = some (a, more) ∧
        Reader.behindSeparators read sep more = some (bs, rest) ∧ as = a :: bs := by
  rw [Reader.behindSeparators] at h
  split at h
  · cases h
    exact .inl ⟨rfl, rfl⟩
  · rename_i behind hsep
    split at h
    · cases h
    · rename_i a more hitem
      split at h
      · obtain ⟨⟨bs, _⟩, hmore, heq⟩ := Option.map_eq_some_iff.1 h
        cases heq
        exact .inr ⟨behind, a, more, bs, hsep, hitem, hmore, rfl⟩
      · cases h

theorem eq_of_behindSeparators (hread : ReadsOnly read write) {sep cs rest : List Char}
    {as : List α} (h : Reader.behindSeparators read sep cs = some (as, rest)) :
    cs = (as.flatMap fun a => sep ++ (write a).toList) ++ rest := by
  induction as generalizing cs with
  | nil =>
    obtain ⟨-, rfl⟩ | ⟨_, _, _, _, -, -, -, heq⟩ := behindSeparators_cases h
    · rfl
    · cases heq
  | cons a as ih =>
    obtain ⟨heq, -⟩ | ⟨behind, b, more, bs, hsep, hitem, hmore, heq⟩ := behindSeparators_cases h
    · cases heq
    · cases heq
      obtain ⟨word, rfl, hword⟩ := List.dropPrefix?_eq_some_iff.1 hsep
      rw [eq_of_beq hword, hread _ _ _ hitem, ih hmore, List.flatMap_cons]
      simp only [List.append_assoc]

/-- **A list of items is read nowhere but where it stands.** -/
theorem readsOnly_separated (hread : ReadsOnly read write) (sep : String) :
    ReadsOnly (Reader.separated read sep.toList) fun as => sep.intercalate (as.map write) := by
  intro cs as rest h
  rw [Reader.separated] at h
  split at h
  · cases h
    simp
  · rename_i a more hitem
    obtain ⟨⟨as, rest⟩, hmore, heq⟩ := Option.map_eq_some_iff.1 h
    cases heq
    rw [hread _ _ _ hitem, eq_of_behindSeparators hread hmore]
    simp only [List.map_cons, toList_intercalate_cons, List.flatMap_map, List.append_assoc]

end Lists

/-! ## Names and texts in a statement -/

/-- What may follow a list of names: neither one more quote nor a comma. -/
def EndsNames (d : Dialect) (rest : List Char) : Prop :=
  rest.head? ≠ some d.nameQuote ∧ rest.head? ≠ some ','

/-- **Lists of names in front of texts that end them are told apart, and so are the texts.** -/
theorem quoteNames_append_inj {d : Dialect} {these those : List String} {a b : List Char}
    (ha : EndsNames d a) (hb : EndsNames d b)
    (h : (quoteNames d these).toList ++ a = (quoteNames d those).toList ++ b) :
    these = those ∧ a = b := by
  have hthese := separated_quoteNames ha.1 ha.2 these
  have hthose := separated_quoteNames hb.1 hb.2 those
  rw [h, hthose] at hthese
  cases hthese
  exact ⟨rfl, rfl⟩

theorem quoteNames_injective (d : Dialect) : Function.Injective (quoteNames d) := by
  intro these those h
  have hend : EndsNames d [] := ⟨nofun, nofun⟩
  exact (quoteNames_append_inj hend hend (by rw [h])).1

/-- **The quoting of names and texts is uniquely decodable.** A list of quoted names is read back
from in front of any text that ends it, which is left alone, and so is a quoted text; neither is
read where it has not been written; and no two lists of names are written alike. -/
theorem quotes_uniquely_decodable (d : Dialect) :
    (ReadsBack (Reader.separated (Reader.quoted d.nameQuote) ", ".toList) (quoteNames d)
        (EndsNames d) ∧
      ReadsOnly (Reader.separated (Reader.quoted d.nameQuote) ", ".toList) (quoteNames d)) ∧
    Function.Injective (quoteNames d) ∧
    ReadsBack (Reader.quoted '\'') quoteText (fun rest => rest.head? ≠ some '\'') ∧
      ReadsOnly (Reader.quoted '\'') quoteText := by
  refine ⟨⟨fun names rest hend => separated_quoteNames hend.1 hend.2 names, ?_⟩,
    quoteNames_injective d, readsBack_quoted '\'', readsOnly_quoted '\''⟩
  exact readsOnly_separated (readsOnly_quoted d.nameQuote) ", "

/-- Names made of quotes, commas and separators, and a text that looks like more of them. -/
theorem quotes_uniquely_decodable_hostile :
    let names := ["", "`", "a`, `b", ",", "``, "]
    let text := "'it''s', '"
    let rest := " VALUES ('`a`', '".toList
    (EndsNames .mysql rest ∧ rest.head? ≠ some '\'') ∧
      Reader.separated (Reader.quoted '`') ", ".toList ((quoteNames .mysql names).toList ++ rest) =
        some (names, rest) ∧
      (quoteNames .mysql [] ≠ quoteNames .mysql [""] ∧
        quoteNames .mysql ["a`, `b"] ≠ quoteNames .mysql ["a", "b"]) ∧
      Reader.quoted '\'' ((quoteText text).toList ++ rest) = some (text, rest) := by
  intro names text rest
  obtain ⟨⟨hnames, -⟩, hinjective, htext, -⟩ := quotes_uniquely_decodable .mysql
  have hend : EndsNames .mysql rest := ⟨by decide, by decide⟩
  have hquote : rest.head? ≠ some '\'' := by decide
  exact ⟨⟨hend, hquote⟩, hnames names rest hend,
    ⟨hinjective.ne (by decide), hinjective.ne (by decide)⟩, htext text rest hquote⟩

end TableSql
