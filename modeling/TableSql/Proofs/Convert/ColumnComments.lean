import Mathlib.Data.List.TakeWhile
import TableSql.Proofs.Text.Words

/-!
# Statements that comment on columns only

The search for a table's comment goes three times through a statement. This module says how each of
the three gets through a part that has comments of columns but none of the table.

* `ColumnComments` — a piece of a statement has these comments of columns, and no other mention of
  the words that the search looks for, PRIMARY KEY apart.
* `Apart` — what may follow a piece: nothing that goes on with its last word, and no KEY.
* `closedBehind` — has a parenthesis been closed, and no semicolon come since?
* `beforeQuote` — a text up to its first quote, which is what the search reads of a comment.

Principal results: `ColumnComments.keyComment?_append` and `ColumnComments.optionComment?_append`
(the first two searches pass such a piece over), `ColumnComments.lastComment?_append` (the third one
finds the last comment in it), and `fst_commentQuoted?_enclosed` (a comment is read up to its first
quote).
-/

set_option autoImplicit false

namespace TableSql

/-! ## The readers where a word is missing -/

theorem commentHere?_eq_none {cs : List Char} (h : afterLetters? commentWord cs = none) :
    commentHere? cs = none := by
  unfold commentHere? afterKeyword?
  change (afterLetters? commentWord cs >>= _) = none
  rw [h]
  rfl

theorem optionCommentHere?_eq_none {cs : List Char} (h : afterLetters? commentWord cs = none) :
    optionCommentHere? cs = none := by
  unfold optionCommentHere? afterKeyword?
  change (afterLetters? commentWord cs >>= _) = none
  rw [h]
  rfl

/-- The words before KEY. -/
def keyKinds : List (List Char) := ["unique".toList, "duplicate".toList, "aggregate".toList]

theorem isWord_of_mem_keyKinds : ∀ word ∈ keyKinds, IsWord word := by decide

theorem keyCommentHere?_eq_none {cs : List Char}
    (h : ∀ word ∈ keyKinds, ∀ behind, afterLetters? word cs = some behind →
      afterLetters? keyWord (Text.stripFront behind) = none) :
    keyCommentHere? cs = none := by
  have hkey : ∀ behind, ((afterKeyword? "unique" cs).or (afterKeyword? "duplicate" cs)).or
      (afterKeyword? "aggregate" cs) = some behind →
      afterKeyword? "key" (Text.stripFront behind) = none := by
    intro behind hb
    rw [Option.or_eq_some_iff, Option.or_eq_some_iff] at hb
    rcases hb with (hb | ⟨-, hb⟩) | ⟨-, hb⟩
    · exact h _ (by simp [keyKinds]) behind hb
    · exact h _ (by simp [keyKinds]) behind hb
    · exact h _ (by simp [keyKinds]) behind hb
  unfold keyCommentHere?
  generalize ((afterKeyword? "unique" cs).or (afterKeyword? "duplicate" cs)).or
    (afterKeyword? "aggregate" cs) = found at hkey ⊢
  cases found with
  | none => rfl
  | some behind =>
    cases behind with
    | nil => rfl
    | cons c behind =>
      simp only [Option.bind_eq_bind, Option.bind_some, hkey _ rfl, Option.bind_none, ite_self]

/-! ## Passing over a text -/

/-- What may follow a piece: nothing that goes on with its last word, and no KEY, also not behind
white space. -/
structure Apart (rest : List Char) : Prop where
  begins : beginsApart rest = true
  noKey : afterLetters? keyWord (Text.stripFront rest) = none

/-- Has a parenthesis been closed, and no semicolon come since? -/
def closedBehind (closed : Bool) (cs : List Char) : Bool :=
  cs.foldl (fun closed c => c == ')' || (closed && c != ';')) closed

theorem closedBehind_append (closed : Bool) (a b : List Char) :
    closedBehind closed (a ++ b) = closedBehind (closedBehind closed a) b :=
  List.foldl_append

variable {cs rest : List Char}

theorem afterKey_stripFront (hcs : mentions keyWord cs = false) (hrest : Apart rest) :
    afterLetters? keyWord (Text.stripFront (cs ++ rest)) = none := by
  induction cs with
  | nil => exact hrest.noKey
  | cons c cs ih =>
    by_cases hc : Text.isBlank c = true
    · rw [Text.stripFront, List.cons_append, List.dropWhile_cons_of_pos hc]
      exact ih (mentions_of_suffix (List.suffix_cons c cs) hcs)
    · rw [Text.stripFront, List.cons_append, List.dropWhile_cons_of_neg hc, ← List.cons_append,
        afterLetters?_append isWord_key.2 hrest.begins,
        afterLetters?_of_not_mentions isWord_key hcs]
      rfl

theorem keyComment?_skip (hcs : mentions keyWord cs = false) (hrest : Apart rest) :
    keyComment? (cs ++ rest) = keyComment? rest := by
  induction cs with
  | nil => rfl
  | cons c cs ih =>
    have hhere : keyCommentHere? (c :: (cs ++ rest)) = none := by
      refine keyCommentHere?_eq_none fun word hword behind hb => ?_
      have happend :=
        afterLetters?_append (isWord_of_mem_keyKinds word hword).2 hrest.begins (c :: cs)
      rw [List.cons_append] at happend
      rw [happend, Option.map_eq_some_iff] at hb
      obtain ⟨inside, hinside, rfl⟩ := hb
      exact afterKey_stripFront (mentions_of_suffix (suffix_of_afterLetters? hinside) hcs) hrest
    rw [List.cons_append, keyComment?, hhere]
    exact ih (mentions_of_suffix (List.suffix_cons c cs) hcs)

theorem afterComment_append (hcs : mentions commentWord cs = false)
    (hrest : beginsApart rest = true) : afterLetters? commentWord (cs ++ rest) = none := by
  rw [afterLetters?_append isWord_comment.2 hrest, afterLetters?_of_not_mentions isWord_comment hcs]
  rfl

theorem optionComment?_skip (hcs : mentions commentWord cs = false)
    (hrest : beginsApart rest = true) (closed : Bool) :
    optionComment? closed (cs ++ rest) = optionComment? (closedBehind closed cs) rest := by
  induction cs generalizing closed with
  | nil => rfl
  | cons c cs ih =>
    have hhere : optionCommentHere? (c :: (cs ++ rest)) = none :=
      optionCommentHere?_eq_none (afterComment_append hcs hrest)
    rw [List.cons_append, optionComment?, hhere, ite_self, Option.none_or,
      ih (mentions_of_suffix (List.suffix_cons c cs) hcs)]
    rfl

theorem lastComment?_skip (hcs : mentions commentWord cs = false)
    (hrest : beginsApart rest = true) : lastComment? 0 (cs ++ rest) = lastComment? 0 rest := by
  induction cs with
  | nil => rfl
  | cons c cs ih =>
    have hhere : commentHere? (c :: (cs ++ rest)) = none :=
      commentHere?_eq_none (afterComment_append hcs hrest)
    rw [List.cons_append, lastComment?, hhere]
    exact ih (mentions_of_suffix (List.suffix_cons c cs) hcs)

/-! ## Reading a written comment -/

/-- The characters before the first quote of either kind. -/
def beforeQuote (cs : List Char) : List Char := cs.takeWhile (!isCommentQuote ·)

/-- A text without quotes of either kind. -/
def Quoteless (s : String) : Prop := ∀ c ∈ s.toList, isCommentQuote c = false

instance (s : String) : Decidable (Quoteless s) := List.decidableBAll _ s.toList

theorem beforeQuote_append_doubled (cs rest : List Char) :
    beforeQuote (Text.doubled '\'' cs ++ '\'' :: rest) = beforeQuote cs := by
  induction cs with
  | nil => rfl
  | cons c cs ih =>
    by_cases hc : c = '\''
    · subst hc
      rfl
    · simp only [Text.doubled, if_neg hc, List.cons_append, beforeQuote, List.takeWhile_cons]
      split
      · exact congrArg (c :: ·) ih
      · rfl

/-- **A comment is read up to its first quote.** -/
theorem fst_commentQuoted?_enclosed (cs rest : List Char) :
    (commentQuoted? (Text.enclosedChars '\'' cs ++ rest)).map Prod.fst = some (beforeQuote cs) := by
  have hopen : isCommentQuote '\'' = true := by decide
  have hbehind : (Text.doubled '\'' cs ++ '\'' :: rest).dropWhile (!isCommentQuote ·) ≠ [] := by
    rw [ne_eq, List.dropWhile_eq_nil_iff]
    intro hall
    have := hall '\'' (by simp)
    rw [hopen] at this
    cases this
  obtain ⟨c, behind, hbehind⟩ := List.exists_cons_of_ne_nil hbehind
  have hinside := beforeQuote_append_doubled cs rest
  rw [beforeQuote] at hinside
  rw [Text.enclosedChars, List.cons_append, commentQuoted?, if_pos hopen,
    List.span_eq_takeWhile_dropWhile, List.append_assoc, List.singleton_append, hinside, hbehind]
  rfl

theorem doubled_of_quoteless {s : String} (hs : Quoteless s) :
    Text.doubled '\'' s.toList = s.toList :=
  Text.doubled_eq_self fun hm => absurd (hs '\'' hm) (by decide)

theorem commentQuoted?_enclosed {s : String} (hs : Quoteless s) (rest : List Char) :
    commentQuoted? (Text.enclosedChars '\'' s.toList ++ rest) = some (s.toList, rest) := by
  have hopen : isCommentQuote '\'' = true := by decide
  have hall : ∀ c ∈ s.toList, (!isCommentQuote c) = true := fun c hc => by rw [hs c hc]; rfl
  have htake : ('\'' :: rest).takeWhile (!isCommentQuote ·) = [] := rfl
  have hdrop : ('\'' :: rest).dropWhile (!isCommentQuote ·) = '\'' :: rest := rfl
  rw [Text.enclosedChars, doubled_of_quoteless hs, List.cons_append, commentQuoted?, if_pos hopen,
    List.span_eq_takeWhile_dropWhile, List.append_assoc, List.singleton_append,
    List.takeWhile_append_of_pos hall, List.dropWhile_append_of_pos hall, htake, hdrop,
    List.append_nil]

theorem lastComment?_drop (n : Nat) (cs : List Char) :
    lastComment? n cs = lastComment? 0 (cs.drop n) := by
  induction cs generalizing n with
  | nil => cases n <;> rfl
  | cons c cs ih =>
    cases n with
    | zero => rfl
    | succ n => exact ih n

/-- A comment that is read counts unless there is one behind it. -/
theorem lastComment?_of_commentHere? {c : Char} (before : List Char) {inside rest : List Char}
    (h : commentHere? (c :: (before ++ rest)) = some (inside, rest)) :
    lastComment? 0 (c :: (before ++ rest)) = (lastComment? 0 rest).or (some inside) := by
  have hskip : (before ++ rest).length - rest.length = before.length := by
    rw [List.length_append]
    omega
  rw [lastComment?, h]
  simp only [hskip]
  rw [lastComment?_drop, List.drop_left]

/-! ## Pieces of a statement -/

/-- In a piece of a statement the comments are these ones of columns, and the words COMMENT and KEY
do not stand anywhere else, apart from PRIMARY KEY. -/
inductive ColumnComments : String → List String → Prop where
  | silent {piece : String} : Silent piece → ColumnComments piece []
  | column {text : String} : Wordless text → ColumnComments (" COMMENT " ++ quoteText text) [text]
  | primaryKey : ColumnComments "  PRIMARY KEY" []
  | append {a b : String} {as bs : List String} :
    ColumnComments a as → ColumnComments b bs → ColumnComments (a ++ b) (as ++ bs)

theorem toList_commentClause (text : String) (rest : List Char) :
    (" COMMENT " ++ quoteText text).toList ++ rest =
      " COMMENT ".toList ++ (Text.enclosedChars '\'' text.toList ++ rest) := by
  simp only [quoteText, Text.enclosed, String.toList_append, String.toList_ofList,
    List.append_assoc]

namespace ColumnComments

variable {piece : String} {texts : List String}

/-- In front of what may follow, a piece itself may follow. -/
theorem apart (h : ColumnComments piece texts) (hrest : Apart rest) :
    Apart (piece.toList ++ rest) := by
  induction h generalizing rest with
  | silent hs =>
    exact ⟨beginsApart_append hs.apart hrest.begins, afterKey_stripFront hs.key hrest⟩
  | column _ =>
    rw [toList_commentClause]
    exact ⟨rfl, rfl⟩
  | primaryKey => exact ⟨rfl, rfl⟩
  | append _ _ iha ihb =>
    rw [String.toList_append, List.append_assoc]
    exact iha (ihb hrest)

/-- **The first search passes over a piece.** -/
theorem keyComment?_append (h : ColumnComments piece texts) (hrest : Apart rest) :
    keyComment? (piece.toList ++ rest) = keyComment? rest := by
  induction h generalizing rest with
  | silent hs => exact keyComment?_skip hs.key hrest
  | column ht =>
    rename_i text
    have hquote : isWordLetter '\'' = false := by decide
    have hkey : mentions keyWord (Text.enclosedChars '\'' text.toList) = false := by
      rw [mentions_enclosed isWord_key hquote, ht.key]
    have hquoted : Apart (Text.enclosedChars '\'' text.toList ++ rest) := ⟨rfl, rfl⟩
    rw [toList_commentClause, keyComment?_skip (by decide) hquoted, keyComment?_skip hkey hrest]
  | primaryKey => rfl
  | append ha hb iha ihb =>
    rw [String.toList_append, List.append_assoc, iha (hb.apart hrest), ihb hrest]

/-- **The second search passes over a piece.** -/
theorem optionComment?_append (h : ColumnComments piece texts) (hrest : Apart rest)
    (closed : Bool) :
    optionComment? closed (piece.toList ++ rest) =
      optionComment? (closedBehind closed piece.toList) rest := by
  induction h generalizing rest closed with
  | silent hs => exact optionComment?_skip hs.comment hrest.begins closed
  | column ht =>
    rename_i text
    have hquote : isWordLetter '\'' = false := by decide
    have hcomment : mentions commentWord (Text.enclosedChars '\'' text.toList) = false := by
      rw [mentions_enclosed isWord_comment hquote, ht.comment]
    have hword : closedBehind closed " COMMENT ".toList = closed := by cases closed <;> rfl
    have hpass : optionComment? closed
        (" COMMENT ".toList ++ (Text.enclosedChars '\'' text.toList ++ rest)) =
        optionComment? closed (Text.enclosedChars '\'' text.toList ++ rest) := by
      cases closed <;> rfl
    have hpiece := toList_commentClause text []
    rw [List.append_nil, List.append_nil] at hpiece
    rw [toList_commentClause, hpass, optionComment?_skip hcomment hrest.begins, hpiece,
      closedBehind_append, hword]
  | primaryKey => cases closed <;> rfl
  | append ha hb iha ihb =>
    rw [String.toList_append, List.append_assoc, iha (hb.apart hrest), ihb hrest,
      closedBehind_append]

/-- **The third search finds the last comment of a piece, unless there is one behind it.** -/
theorem lastComment?_append (h : ColumnComments piece texts) (hrest : Apart rest)
    (hquoteless : ∀ text ∈ texts, Quoteless text) :
    lastComment? 0 (piece.toList ++ rest) =
      (lastComment? 0 rest).or (texts.getLast?.map String.toList) := by
  induction h generalizing rest with
  | silent hs => rw [lastComment?_skip hs.comment hrest.begins]; simp
  | column ht =>
    rename_i text
    have hread := commentQuoted?_enclosed (hquoteless text (by simp)) rest
    have hhere : commentHere? ("COMMENT ".toList ++
        (Text.enclosedChars '\'' text.toList ++ rest)) = some (text.toList, rest) := hread
    have hbehind := lastComment?_of_commentHere? ("OMMENT ".toList ++
      Text.enclosedChars '\'' text.toList) (by rw [List.append_assoc]; exact hhere)
    rw [List.append_assoc] at hbehind
    rw [toList_commentClause]
    exact hbehind
  | primaryKey => exact (Option.or_none).symm
  | append ha hb iha ihb =>
    rw [List.forall_mem_append] at hquoteless
    rw [String.toList_append, List.append_assoc, iha (hb.apart hrest) hquoteless.1,
      ihb hrest hquoteless.2, List.getLast?_append, Option.or_assoc, Option.map_or]

end ColumnComments

/-! ## Whole statements -/

section Statement

variable {behind : String} {texts : List String}

theorem keyComment?_statement (h : ColumnComments behind texts) (hrest : Apart rest) :
    keyComment? ("CREATE TABLE".toList ++ (behind.toList ++ rest)) = keyComment? rest := by
  rw [keyComment?_skip (by decide) (h.apart hrest), h.keyComment?_append hrest]

theorem optionComment?_statement (h : ColumnComments behind texts) (hrest : Apart rest) :
    optionComment? false ("CREATE TABLE".toList ++ (behind.toList ++ rest)) =
      optionComment? (closedBehind false behind.toList) rest := by
  have hwords : closedBehind false "CREATE TABLE".toList = false := rfl
  rw [optionComment?_skip (by decide) (h.apart hrest).begins, hwords,
    h.optionComment?_append hrest]

theorem lastComment?_statement (h : ColumnComments behind texts) (hrest : Apart rest)
    (hquoteless : ∀ text ∈ texts, Quoteless text) :
    lastComment? 0 ("CREATE TABLE".toList ++ (behind.toList ++ rest)) =
      (lastComment? 0 rest).or (texts.getLast?.map String.toList) := by
  rw [lastComment?_skip (by decide) (h.apart hrest).begins,
    h.lastComment?_append hrest hquoteless]

end Statement

end TableSql
