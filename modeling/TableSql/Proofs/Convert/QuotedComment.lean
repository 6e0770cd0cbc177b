import Mathlib.Data.List.TakeWhile
import TableSql.Proofs.Text.Words

/-!
# What the search for a comment finds

* `CommentText` — the text that gives a comment: the word COMMENT, an equals sign or none with white
  space around it, and the comment between two quotes.
* `Commented` — such a text stands somewhere in some characters.
* `StandsQuoted` — some characters stand between two quotes, with no quote inside.

Principal results: `commentHere?_eq_some_iff` (what one of the readers reads are just these texts),
`commented_of_found` (whatever one of the three searches finds is given so),
`exists_lastComment?` (the third search finds something wherever a comment is given), and from them
what is found in a statement.
-/

set_option autoImplicit false

namespace TableSql

/-- The text that gives a comment: the word COMMENT in any letter case, white space, an equals sign
or none, white space again, and the comment between two quotes of either kind, with none inside. -/
inductive CommentText (inside : List Char) : List Char → Prop where
  | mk (word before sign after : List Char) (opening closing : Char) :
    word.map Char.toLower = commentWord → Text.AllBlank before → sign ∈ [[], ['=']] →
    Text.AllBlank after → isCommentQuote opening = true → isCommentQuote closing = true →
    (∀ c ∈ inside, isCommentQuote c = false) →
    CommentText inside
      (word ++ (before ++ (sign ++ (after ++ (opening :: (inside ++ [closing]))))))

/-- A comment is given somewhere in some characters. -/
def Commented (inside cs : List Char) : Prop :=
  ∃ clause, CommentText inside clause ∧ clause <:+: cs

/-- Some characters stand between two quotes, of either kind, and hold none. -/
def StandsQuoted (inside cs : List Char) : Prop :=
  ∃ before opening closing after, cs = before ++ opening :: (inside ++ closing :: after) ∧
    isCommentQuote opening = true ∧ isCommentQuote closing = true ∧
    ∀ c ∈ inside, isCommentQuote c = false

theorem CommentText.ne_nil {inside clause : List Char} (h : CommentText inside clause) :
    clause ≠ [] := by
  cases h
  simp

theorem CommentText.standsQuoted {inside clause : List Char} (h : CommentText inside clause) :
    StandsQuoted inside clause := by
  cases h with
  | mk word before sign after opening closing _ _ _ _ hopening hclosing hinside =>
    refine ⟨word ++ (before ++ (sign ++ after)), opening, closing, [], ?_, hopening, hclosing,
      hinside⟩
    simp only [List.append_assoc]

theorem StandsQuoted.of_isInfix {inside a b : List Char} (h : StandsQuoted inside a)
    (hab : a <:+: b) : StandsQuoted inside b := by
  obtain ⟨before, opening, closing, after, rfl, hquotes⟩ := h
  obtain ⟨front, back, rfl⟩ := hab
  refine ⟨front ++ before, opening, closing, after ++ back, ?_, hquotes⟩
  simp only [List.append_assoc, List.cons_append]

theorem Commented.of_isInfix {inside a b : List Char} (h : Commented inside a) (hab : a <:+: b) :
    Commented inside b := by
  obtain ⟨clause, hclause, ha⟩ := h
  exact ⟨clause, hclause, ha.trans hab⟩

theorem Commented.standsQuoted {inside cs : List Char} (h : Commented inside cs) :
    StandsQuoted inside cs := by
  obtain ⟨clause, hclause, hcs⟩ := h
  exact hclause.standsQuoted.of_isInfix hcs

theorem StandsQuoted.two_le_countP {inside cs : List Char} (h : StandsQuoted inside cs) :
    2 ≤ cs.countP isCommentQuote := by
  obtain ⟨before, opening, closing, after, rfl, hopening, hclosing, -⟩ := h
  simp only [List.countP_append, List.countP_cons_of_pos hopening,
    List.countP_cons_of_pos hclosing]
  omega

/-! ## The readers -/

theorem afterChar?_eq_some_iff {c : Char} {cs rest : List Char} :
    afterChar? c cs = some rest ↔ cs = c :: rest := by
  cases cs with
  | nil => simp [afterChar?]
  | cons d cs =>
    rw [afterChar?]
    split
    · rename_i hc
      rw [hc, Option.some.injEq, List.cons.injEq, and_iff_right rfl]
    · rename_i hc
      simp only [reduceCtorEq, List.cons.injEq, false_iff, not_and]
      exact fun hd => absurd hd.symm hc

/-- A letter other than `k` is read in lower case and in upper case. -/
theorem isLetter_iff {l c : Char} (hl : l.isLower = true) (hk : l ≠ 'k') :
    isLetter l c = true ↔ c.toLower = l := by
  have hsame : l.toLower = l :=
    Text.forall_ascii (p := fun l => l.isLower = true → l.toLower = l) (by decide)
      (toNat_lt_of_isLower hl) hl
  have hread : isLetter l c = true ↔ c = l ∨ c = l.toUpper := by
    simp [isLetter, hk]
  rw [hread]
  constructor
  · rintro (rfl | rfl)
    · exact hsame
    · rw [Text.toLower_toUpper (toNat_lt_of_isLower hl), hsame]
  · rintro rfl
    by_cases hc : c.toNat < 128
    · exact Text.forall_ascii (p := fun c => c = c.toLower ∨ c = c.toLower.toUpper) (by decide) hc
    · exact .inl (Text.toLower_of_not_ascii hc).symm

theorem afterLetters?_eq_some_iff {word : List Char}
    (hword : ∀ l ∈ word, l.isLower = true ∧ l ≠ 'k') {cs behind : List Char} :
    afterLetters? word cs = some behind ↔
      ∃ spelled, spelled.map Char.toLower = word ∧ cs = spelled ++ behind := by
  induction word generalizing cs with
  | nil => simp [afterLetters?, eq_comm]
  | cons l word ih =>
    rw [List.forall_mem_cons] at hword
    cases cs with
    | nil =>
      simp only [afterLetters?, reduceCtorEq, false_iff]
      rintro ⟨spelled, hspelled, hnil⟩
      rw [(List.append_eq_nil_iff.1 hnil.symm).1] at hspelled
      cases hspelled
    | cons c cs =>
      rw [afterLetters?]
      split
      · rename_i hc
        rw [isLetter_iff hword.1.1 hword.1.2] at hc
        rw [ih hword.2]
        constructor
        · rintro ⟨spelled, hspelled, rfl⟩
          exact ⟨c :: spelled, by rw [List.map_cons, hc, hspelled], rfl⟩
        · rintro ⟨spelled, hspelled, hcs⟩
          cases spelled with
          | nil => cases hspelled
          | cons d spelled =>
            cases hcs
            exact ⟨spelled, (List.cons.inj hspelled).2, rfl⟩
      · rename_i hc
        simp only [reduceCtorEq, false_iff]
        rintro ⟨spelled, hspelled, hcs⟩
        cases spelled with
        | nil => cases hspelled
        | cons d spelled =>
          cases hcs
          exact hc ((isLetter_iff hword.1.1 hword.1.2).2 (List.cons.inj hspelled).1)

theorem afterComment_eq_some_iff {cs behind : List Char} :
    afterKeyword? "comment" cs = some behind ↔
      ∃ word, word.map Char.toLower = commentWord ∧ cs = word ++ behind := by
  have hcomment : ∀ l ∈ commentWord, l.isLower = true ∧ l ≠ 'k' :=
    Text.forall_mem_of_all (by decide)
  exact afterLetters?_eq_some_iff hcomment

theorem commentQuoted?_eq_some_iff {cs inside rest : List Char} :
    commentQuoted? cs = some (inside, rest) ↔ ∃ opening closing,
      isCommentQuote opening = true ∧ isCommentQuote closing = true ∧
      (∀ c ∈ inside, isCommentQuote c = false) ∧
      cs = opening :: (inside ++ [closing]) ++ rest := by
  constructor
  · intro h
    cases cs with
    | nil => cases h
    | cons opening cs =>
      rw [commentQuoted?] at h
      split at h
      · rename_i hopening
        rw [List.span_eq_takeWhile_dropWhile] at h
        have hall : cs.takeWhile (!isCommentQuote ·) ++ cs.dropWhile (!isCommentQuote ·) = cs :=
          List.takeWhile_append_dropWhile
        cases hdrop : cs.dropWhile (!isCommentQuote ·) with
        | nil => rw [hdrop] at h; cases h
        | cons closing after =>
          have hclosing := List.head?_dropWhile_not (!isCommentQuote ·) cs
          rw [hdrop] at h hall hclosing
          cases h
          refine ⟨opening, closing, hopening, by simpa using hclosing, fun c hc => ?_, ?_⟩
          · simpa using List.mem_takeWhile_imp hc
          · rw [List.cons_append, List.append_assoc, List.singleton_append, hall]
      · cases h
  · rintro ⟨opening, closing, hopening, hclosing, hinside, rfl⟩
    have hall : ∀ c ∈ inside, (!isCommentQuote c) = true := fun c hc => by rw [hinside c hc]; rfl
    have hstop : ¬ (!isCommentQuote closing) = true := by simp [hclosing]
    rw [List.cons_append, List.append_assoc, List.singleton_append, commentQuoted?, if_pos hopening,
      List.span_eq_takeWhile_dropWhile, List.takeWhile_append_of_pos hall,
      List.dropWhile_append_of_pos hall, List.takeWhile_cons_of_neg (p := (!isCommentQuote ·)) hstop,
      List.dropWhile_cons_of_neg (p := (!isCommentQuote ·)) hstop, List.append_nil]

/-! ## Reading the text that gives a comment -/

theorem exists_sign (cs : List Char) :
    ∃ sign ∈ [[], ['=']], cs = sign ++ (afterChar? '=' cs).getD cs := by
  cases cs with
  | nil => exact ⟨[], by simp, rfl⟩
  | cons c cs =>
    rw [afterChar?]
    split
    · rename_i hc
      exact ⟨['='], by simp, by rw [← hc]; rfl⟩
    · exact ⟨[], by simp, rfl⟩

/-- The parts of a comment, read one after the other, make up the text that gives it. -/
theorem exists_commentText {cs before sign after quoted inside rest : List Char}
    (hword : afterKeyword? "comment" cs = some (before ++ (sign ++ (after ++ quoted))))
    (hbefore : Text.AllBlank before) (hsign : sign ∈ [[], ['=']]) (hafter : Text.AllBlank after)
    (hquoted : commentQuoted? quoted = some (inside, rest)) :
    ∃ clause, CommentText inside clause ∧ cs = clause ++ rest := by
  obtain ⟨word, hspelled, rfl⟩ := afterComment_eq_some_iff.1 hword
  obtain ⟨opening, closing, hopening, hclosing, hinside, rfl⟩ :=
    commentQuoted?_eq_some_iff.1 hquoted
  refine ⟨_, .mk _ _ _ _ _ _ hspelled hbefore hsign hafter hopening hclosing hinside, ?_⟩
  simp only [List.append_assoc]

theorem readsOn_quote {c : Char} (hc : isCommentQuote c = true) (cs : List Char) :
    Text.stripFront (c :: cs) = c :: cs ∧ afterChar? '=' (c :: cs) = none := by
  simp only [isCommentQuote, Bool.or_eq_true, beq_iff_eq] at hc
  rcases hc with rfl | rfl
  · exact ⟨rfl, rfl⟩
  · exact ⟨rfl, rfl⟩

/-- **The reader of comments reads just the texts that give one,** whatever follows. -/
theorem commentHere?_eq_some_iff {cs inside rest : List Char} :
    commentHere? cs = some (inside, rest) ↔
      ∃ clause, CommentText inside clause ∧ cs = clause ++ rest := by
  unfold commentHere?
  simp only [Option.bind_eq_bind, Option.bind_eq_some_iff]
  constructor
  · rintro ⟨behind, hword, hquoted⟩
    obtain ⟨before, hbefore, hbehind⟩ := Text.exists_append_stripFront behind
    obtain ⟨sign, hsign, hstripped⟩ := exists_sign (Text.stripFront behind)
    obtain ⟨after, hafter, hrest⟩ := Text.exists_append_stripFront
      ((afterChar? '=' (Text.stripFront behind)).getD (Text.stripFront behind))
    rw [hbehind, hstripped, hrest] at hword
    exact exists_commentText hword hbefore hsign hafter hquoted
  · rintro ⟨clause, hclause, rfl⟩
    cases hclause with
    | mk word before sign after opening closing hword hbefore hsign hafter hopening hclosing
        hinside =>
      have hquoted : commentQuoted? (opening :: (inside ++ [closing]) ++ rest) =
          some (inside, rest) :=
        commentQuoted?_eq_some_iff.2 ⟨opening, closing, hopening, hclosing, hinside, rfl⟩
      have hquote := readsOn_quote hopening (inside ++ [closing] ++ rest)
      refine ⟨before ++ (sign ++ (after ++ (opening :: (inside ++ [closing]) ++ rest))),
        afterComment_eq_some_iff.2 ⟨word, hword, by simp only [List.append_assoc]⟩, ?_⟩
      rw [Text.stripFront_append hbefore]
      simp only [List.mem_cons, List.not_mem_nil, or_false] at hsign
      rw [List.cons_append] at hquoted ⊢
      rcases hsign with rfl | rfl
      · rw [List.nil_append, Text.stripFront_append hafter, hquote.1, hquote.2, Option.getD_none,
          hquote.1, hquoted]
      · have hsign : Text.stripFront (['='] ++ (after ++ opening :: (inside ++ [closing] ++ rest))) =
            '=' :: (after ++ opening :: (inside ++ [closing] ++ rest)) := rfl
        rw [hsign, afterChar?, if_pos rfl, Option.getD_some, Text.stripFront_append hafter,
          hquote.1, hquoted]

/-! ## The three searches -/

theorem commented_of_commentHere? {cs inside rest : List Char}
    (h : commentHere? cs = some (inside, rest)) : Commented inside cs := by
  obtain ⟨clause, hclause, rfl⟩ := commentHere?_eq_some_iff.1 h
  exact ⟨clause, hclause, (List.prefix_append clause rest).isInfix⟩

theorem commented_of_optionCommentHere? {cs inside : List Char}
    (h : optionCommentHere? cs = some inside) : Commented inside cs := by
  unfold optionCommentHere? at h
  simp only [Option.bind_eq_bind, Option.bind_eq_some_iff] at h
  obtain ⟨behind, hword, behindSign, hsign, ⟨found, rest⟩, hquoted, hfound⟩ := h
  cases hfound
  obtain ⟨before, hbefore, hbehind⟩ := Text.exists_append_stripFront behind
  obtain ⟨after, hafter, hrest⟩ := Text.exists_append_stripFront behindSign
  rw [hbehind, afterChar?_eq_some_iff.1 hsign, hrest] at hword
  have hequals : ['='] ∈ [[], ['=']] := by simp
  obtain ⟨clause, hclause, rfl⟩ := exists_commentText hword hbefore hequals hafter hquoted
  exact ⟨clause, hclause, (List.prefix_append clause rest).isInfix⟩

theorem commented_of_keyCommentHere? {cs inside : List Char}
    (h : keyCommentHere? cs = some inside) : Commented inside cs := by
  unfold keyCommentHere? at h
  simp only [Option.bind_eq_bind, Option.bind_eq_some_iff] at h
  obtain ⟨behind, hword, h⟩ := h
  have hbehind : behind <:+ cs := by
    rw [Option.or_eq_some_iff, Option.or_eq_some_iff] at hword
    rcases hword with (hword | ⟨-, hword⟩) | ⟨-, hword⟩
    all_goals exact suffix_of_afterLetters? hword
  refine Commented.of_isInfix ?_ hbehind.isInfix
  cases behind with
  | nil => cases h
  | cons c behind =>
    simp only at h
    split at h
    · cases h
    · simp only [Option.bind_eq_some_iff] at h
      obtain ⟨behindKey, hkey, inList, hopen, behindList, hclose, behindWord, hcomment,
        ⟨found, rest⟩, hquoted, hfound⟩ := h
      cases hfound
      obtain ⟨before, hbefore, hbehindWord⟩ := Text.exists_append_stripFront behindWord
      rw [hbehindWord] at hcomment
      have hnoSign : [] ∈ [[], ['=']] := by simp
      have hnothing : Text.AllBlank [] := List.forall_mem_nil _
      obtain ⟨clause, hclause, hclauses⟩ :=
        exists_commentText hcomment hbefore hnoSign hnothing hquoted
      refine ⟨clause, hclause, ?_⟩
      -- each reader only moves on, so that what is read last stands at the end of it all
      have hlist : clause <:+: behindList :=
        (hclauses ▸ List.prefix_append clause rest).isInfix.trans
          (Text.stripFront_suffix _).isInfix
      have hinside : behindList <:+ inList :=
        ((afterChar?_eq_some_iff.1 hclose) ▸ List.suffix_cons _ _).trans (List.dropWhile_suffix _)
      have hbehindKey : inList <:+ behindKey :=
        ((afterChar?_eq_some_iff.1 hopen) ▸ List.suffix_cons _ _).trans (Text.stripFront_suffix _)
      have hall : behindKey <:+ c :: behind :=
        (suffix_of_afterLetters? hkey).trans (Text.stripFront_suffix _)
      exact hlist.trans ((hinside.trans (hbehindKey.trans hall)).isInfix)

theorem commented_of_keyComment? {cs inside : List Char} (h : keyComment? cs = some inside) :
    Commented inside cs := by
  induction cs with
  | nil => cases h
  | cons c cs ih =>
    rw [keyComment?, Option.or_eq_some_iff] at h
    rcases h with h | ⟨-, h⟩
    · exact commented_of_keyCommentHere? h
    · exact (ih h).of_isInfix (List.suffix_cons c cs).isInfix

theorem commented_of_optionComment? {cs inside : List Char} {closed : Bool}
    (h : optionComment? closed cs = some inside) : Commented inside cs := by
  induction cs generalizing closed with
  | nil => cases h
  | cons c cs ih =>
    rw [optionComment?, Option.or_eq_some_iff] at h
    rcases h with h | ⟨-, h⟩
    · split at h
      · exact commented_of_optionCommentHere? h
      · cases h
    · exact (ih h).of_isInfix (List.suffix_cons c cs).isInfix

theorem commented_of_lastComment? {cs inside : List Char} {skip : Nat}
    (h : lastComment? skip cs = some inside) : Commented inside cs := by
  induction cs generalizing skip with
  | nil => cases skip <;> cases h
  | cons c cs ih =>
    cases skip with
    | succ skip => exact (ih h).of_isInfix (List.suffix_cons c cs).isInfix
    | zero =>
      rw [lastComment?] at h
      split at h
      · rename_i here rest hhere
        rw [Option.or_eq_some_iff] at h
        rcases h with h | ⟨-, h⟩
        · exact (ih h).of_isInfix (List.suffix_cons c cs).isInfix
        · cases h
          exact commented_of_commentHere? hhere
      · exact (ih h).of_isInfix (List.suffix_cons c cs).isInfix

/-- **Where a comment is given the third search finds one:** until it has found one it stops at every
place. -/
theorem exists_lastComment? {cs inside : List Char} (h : Commented inside cs) :
    ∃ found, lastComment? 0 cs = some found := by
  induction cs with
  | nil =>
    obtain ⟨clause, hclause, hnil⟩ := h
    exact absurd (List.infix_nil.1 hnil) hclause.ne_nil
  | cons c cs ih =>
    rw [lastComment?]
    cases hhere : commentHere? (c :: cs) with
    | some found =>
      rw [← Option.isSome_iff_exists, Option.isSome_or, Option.isSome_some, Bool.or_true]
    | none =>
      refine ih ?_
      obtain ⟨clause, hclause, hcs⟩ := h
      rcases List.infix_cons_iff.1 hcs with ⟨rest, hrest⟩ | hcs
      · rw [commentHere?_eq_some_iff.2 ⟨clause, hclause, hrest.symm⟩] at hhere
        cases hhere
      · exact ⟨clause, hclause, hcs⟩

/-! ## A statement -/

/-- What the three searches find, the first one before the second and the third. -/
def foundComment? (cs : List Char) : Option (List Char) :=
  ((keyComment? cs).or (optionComment? false cs)).or (lastComment? 0 cs)

/-- **Whatever is found is given as a comment.** -/
theorem commented_of_found {cs inside : List Char} (h : foundComment? cs = some inside) :
    Commented inside cs := by
  rw [foundComment?, Option.or_eq_some_iff, Option.or_eq_some_iff] at h
  rcases h with (h | ⟨-, h⟩) | ⟨-, h⟩
  · exact commented_of_keyComment? h
  · exact commented_of_optionComment? h
  · exact commented_of_lastComment? h

theorem findTableComment_eq_some_iff {statement text : String} :
    findTableComment statement = some text ↔
      text ≠ "" ∧ foundComment? statement.toList = some text.toList := by
  have hopen : findTableComment statement = (foundComment? statement.toList).bind fun inside =>
    if inside.isEmpty then none else some (String.ofList inside) := rfl
  rw [hopen, Option.bind_eq_some_iff]
  constructor
  · rintro ⟨inside, hfound, h⟩
    split at h
    · cases h
    · rename_i hne
      cases h
      rw [String.toList_ofList]
      refine ⟨fun hempty => hne ?_, hfound⟩
      rw [List.isEmpty_iff, ← String.toList_ofList (l := inside), hempty, String.toList_empty]
  · rintro ⟨hne, hfound⟩
    refine ⟨text.toList, hfound, ?_⟩
    rw [if_neg, String.ofList_toList]
    rwa [List.isEmpty_iff, String.toList_eq_nil_iff]

/-- **What the search finds is not empty and is given as a comment in the statement.** -/
theorem commented_of_findTableComment {statement text : String}
    (h : findTableComment statement = some text) :
    text ≠ "" ∧ Commented text.toList statement.toList := by
  rw [findTableComment_eq_some_iff] at h
  exact ⟨h.1, commented_of_found h.2⟩

theorem isCommentQuote_eq_false_iff {c : Char} :
    isCommentQuote c = false ↔ c ≠ '\'' ∧ c ≠ '"' := by
  simp [isCommentQuote]

/-- **The search for a table's comment finds comments that are given, with something in them;** it
finds one if some are given and none of them is empty, and none without the word COMMENT. -/
theorem comments_found_are_given (statement : String) :
    (∀ text, findTableComment statement = some text →
      text ≠ "" ∧ (∀ c ∈ text.toList, c ≠ '\'' ∧ c ≠ '"') ∧
        Commented text.toList statement.toList) ∧
    ((∃ inside, Commented inside statement.toList) →
      (∀ inside, Commented inside statement.toList → inside ≠ []) →
        ∃ text, findTableComment statement = some text) ∧
    ((∀ word, word <:+: statement.toList → word.map Char.toLower ≠ commentWord) →
      findTableComment statement = none) := by
  refine ⟨fun text h => ?_, fun ⟨inside, hinside⟩ hall => ?_, fun hword => ?_⟩
  · obtain ⟨hne, hgiven⟩ := commented_of_findTableComment h
    obtain ⟨-, -, -, -, -, -, -, hquoteless⟩ := hgiven.standsQuoted
    exact ⟨hne, fun c hc => isCommentQuote_eq_false_iff.1 (hquoteless c hc), hgiven⟩
  · obtain ⟨last, hlast⟩ := exists_lastComment? hinside
    obtain ⟨found, hfound⟩ : ∃ found, foundComment? statement.toList = some found := by
      rw [← Option.isSome_iff_exists, foundComment?, Option.isSome_or, hlast, Option.isSome_some,
        Bool.or_true]
    refine ⟨String.ofList found, findTableComment_eq_some_iff.2 ⟨?_, ?_⟩⟩
    · have hne := hall found (commented_of_found hfound)
      rwa [ne_eq, ← String.toList_eq_nil_iff, String.toList_ofList]
    · rwa [String.toList_ofList]
  · rw [Option.eq_none_iff_forall_ne_some]
    intro text h
    obtain ⟨clause, ⟨word, before, sign, after, opening, closing, hspelled, -⟩, hclause⟩ :=
      (commented_of_findTableComment h).2
    exact hword word ((List.prefix_append word _).isInfix.trans hclause) hspelled

/-- A statement with stray and mixed quotes, in which the last comment is one of a column. -/
theorem comments_found_are_given_mixed :
    let statement := "-- it's \"t\"\nCREATE TABLE t (a INT cOmMeNt\t= 'first\", b INT COMMENT\"b's)"
    (∃ inside, Commented inside statement.toList) ∧
      (∀ inside, Commented inside statement.toList → inside ≠ []) ∧
      ∃ text, findTableComment statement = some text := by
  intro statement
  have hgiven : Commented "first".toList statement.toList := by
    have hinside : "first".toList.all (!isCommentQuote ·) = true := by decide
    refine ⟨_, .mk "cOmMeNt".toList ['\t'] ['='] [' '] '\'' '"' (by decide) (by decide)
      (by decide) (by decide) (by decide) (by decide) (by simpa using hinside), ?_⟩
    obtain ⟨before, after, hcs⟩ := (Text.occursChars_iff
      "cOmMeNt\t= 'first\"".toList statement.toList).1 (by decide)
    exact ⟨before, after, hcs.symm⟩
  have hfilled : ∀ inside, Commented inside statement.toList → inside ≠ [] := by
    rintro _ hinside rfl
    -- around nothing two quotes would stand side by side
    obtain ⟨before, opening, closing, after, hcs, hopening, hclosing, -⟩ := hinside.standsQuoted
    have hoccurs : Text.occursChars [opening, closing] statement.toList = true :=
      (Text.occursChars_iff _ _).2 ⟨before, after, by simpa using hcs⟩
    simp only [isCommentQuote, Bool.or_eq_true, beq_iff_eq] at hopening hclosing
    rcases hopening with rfl | rfl <;> rcases hclosing with rfl | rfl <;>
      exact absurd hoccurs (by decide)
  exact ⟨⟨_, hgiven⟩, hfilled, (comments_found_are_given statement).2.1 ⟨_, hgiven⟩ hfilled⟩

end TableSql
