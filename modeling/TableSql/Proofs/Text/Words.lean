import TableSql.Convert.CommentSearch
import TableSql.Proofs.Text.Ascii
import TableSql.Proofs.Text.Pieces
import TableSql.Text.Search

/-!
# Words in any letter case

The search for a table's comment looks for words, given in lower case, in any letter case.

* `mentions` — does a word stand somewhere in some characters?
* `beginsApart` — characters that cannot go on with a word begun before them.
* `Quiet` — texts over ASCII with neither of the words COMMENT and KEY.
* `Wordless`, `Silent` — what is left of that for a piece of a statement.

Principal results: `mentions_append` (no word stands across a place where the text begins apart),
`mentions_enclosed` (quotes make no word), `occursIn_of_mentions` (over ASCII a word in any letter
case is a word in the upper case of the text), and `Quiet.wordless`.
-/

set_option autoImplicit false

namespace TableSql

/-! ## Letters -/

/-- A character that a word may hold: a letter, or the Kelvin sign. -/
def isWordLetter (c : Char) : Bool := c.isAlpha || c == '\u212a'

/-- Characters that cannot go on with a word begun before them. -/
def beginsApart : List Char → Bool
  | [] => true
  | c :: _ => !isWordLetter c

/-- A word: letters in lower case. -/
def IsWord (word : List Char) : Prop := word ≠ [] ∧ ∀ l ∈ word, l.isLower = true

instance (word : List Char) : Decidable (IsWord word) :=
  @instDecidableAnd _ _ _ (List.decidableBAll _ word)

theorem toNat_lt_of_isLower {l : Char} (hl : l.isLower = true) : l.toNat < 128 :=
  Text.toNat_lt_of_isAlpha (Text.isAlpha_iff.2 (.inr hl))

theorem isAlpha_toUpper_of_isLower {l : Char} (hl : l.isLower = true) :
    l.toUpper.isAlpha = true :=
  Text.forall_ascii (p := fun l => l.isLower = true → l.toUpper.isAlpha = true) (by decide)
    (toNat_lt_of_isLower hl) hl

theorem isWordLetter_of_isLetter {l c : Char} (hl : l.isLower = true) (h : isLetter l c = true) :
    isWordLetter c = true := by
  simp only [isLetter, Bool.or_eq_true, beq_iff_eq, Bool.and_eq_true] at h
  simp only [isWordLetter, Bool.or_eq_true, beq_iff_eq]
  rcases h with (rfl | rfl) | ⟨-, rfl⟩
  · left
    unfold Char.isAlpha
    rw [hl, Bool.or_true]
  · exact .inl (isAlpha_toUpper_of_isLower hl)
  · exact .inr rfl

theorem isLetter_eq_false {l c : Char} (hl : l.isLower = true) (hc : isWordLetter c = false) :
    isLetter l c = false := by
  cases h : isLetter l c with
  | false => rfl
  | true => rw [isWordLetter_of_isLetter hl h] at hc; cases hc

/-! ## Reading a word -/

theorem suffix_of_afterLetters? {word : List Char} :
    ∀ {cs behind : List Char}, afterLetters? word cs = some behind → behind <:+ cs := by
  induction word with
  | nil => intro cs behind h; cases h; exact List.suffix_rfl
  | cons l word ih =>
    intro cs behind h
    cases cs with
    | nil => cases h
    | cons c cs =>
      rw [afterLetters?] at h
      split at h
      · exact (ih h).trans (List.suffix_cons c cs)
      · cases h

/-- A word does not reach over a place where the text begins apart. -/
theorem afterLetters?_append {word rest : List Char} (hword : ∀ l ∈ word, l.isLower = true)
    (hrest : beginsApart rest = true) (cs : List Char) :
    afterLetters? word (cs ++ rest) = (afterLetters? word cs).map (· ++ rest) := by
  induction word generalizing cs with
  | nil => rfl
  | cons l word ih =>
    rw [List.forall_mem_cons] at hword
    cases cs with
    | nil =>
      cases rest with
      | nil => rfl
      | cons c rest =>
        have hc : isWordLetter c = false := by simpa [beginsApart] using hrest
        simp [afterLetters?, isLetter_eq_false hword.1 hc]
    | cons c cs =>
      simp only [List.cons_append, afterLetters?]
      split
      · exact ih hword.2 cs
      · rfl

/-- Doubling a quote neither makes nor breaks a word. -/
theorem afterLetters?_doubled {word : List Char} (hword : ∀ l ∈ word, l.isLower = true)
    {quote : Char} (hq : isWordLetter quote = false) (cs : List Char) :
    afterLetters? word (Text.doubled quote cs) =
      (afterLetters? word cs).map (Text.doubled quote) := by
  induction word generalizing cs with
  | nil => rfl
  | cons l word ih =>
    rw [List.forall_mem_cons] at hword
    cases cs with
    | nil => rfl
    | cons c cs =>
      by_cases hc : c = quote
      · subst hc
        simp [Text.doubled, afterLetters?, isLetter_eq_false hword.1 hq]
      · simp only [Text.doubled, if_neg hc, afterLetters?]
        split
        · exact ih hword.2 cs
        · rfl

/-! ## Words in a text -/

/-- Does a word, given in lower case, stand somewhere in some characters, in any letter case? -/
def mentions (word : List Char) : List Char → Bool
  | [] => false
  | c :: cs => (afterLetters? word (c :: cs)).isSome || mentions word cs

variable {word : List Char}

theorem mentions_of_suffix {a b : List Char} (h : a <:+ b) (hb : mentions word b = false) :
    mentions word a = false := by
  induction b with
  | nil => rw [List.suffix_nil.1 h]; rfl
  | cons c b ih =>
    rcases List.suffix_cons_iff.1 h with rfl | h
    · exact hb
    · rw [mentions, Bool.or_eq_false_iff] at hb
      exact ih h hb.2

theorem afterLetters?_of_not_mentions (hword : IsWord word) {cs : List Char}
    (h : mentions word cs = false) : afterLetters? word cs = none := by
  cases cs with
  | nil =>
    obtain ⟨l, word', rfl⟩ := List.exists_cons_of_ne_nil hword.1
    rfl
  | cons c cs =>
    rw [mentions, Bool.or_eq_false_iff] at h
    exact Option.isSome_eq_false_iff.1 h.1 |> Option.isNone_iff_eq_none.1

/-- **No word stands across a place where the text begins apart.** -/
theorem mentions_append (hword : IsWord word) {rest : List Char} (hrest : beginsApart rest = true)
    (cs : List Char) : mentions word (cs ++ rest) = (mentions word cs || mentions word rest) := by
  induction cs with
  | nil => rfl
  | cons c cs ih =>
    have hhere := afterLetters?_append hword.2 hrest (c :: cs)
    rw [List.cons_append] at hhere
    rw [List.cons_append, mentions, mentions, ih, hhere, Option.isSome_map, Bool.or_assoc]

theorem mentions_cons (hword : IsWord word) {c : Char} (hc : isWordLetter c = false)
    (cs : List Char) : mentions word (c :: cs) = mentions word cs := by
  obtain ⟨l, word', rfl⟩ := List.exists_cons_of_ne_nil hword.1
  rw [mentions, afterLetters?, isLetter_eq_false (hword.2 l (List.mem_cons_self ..)) hc]
  rfl

theorem mentions_doubled (hword : IsWord word) {quote : Char} (hq : isWordLetter quote = false)
    (cs : List Char) : mentions word (Text.doubled quote cs) = mentions word cs := by
  induction cs with
  | nil => rfl
  | cons c cs ih =>
    have hhere := afterLetters?_doubled hword.2 hq (c :: cs)
    by_cases hc : c = quote
    · subst hc
      simp only [Text.doubled, if_true, mentions_cons hword hq, ih]
    · simp only [Text.doubled, if_neg hc] at hhere ⊢
      rw [mentions, mentions, ih, hhere, Option.isSome_map]

/-- **Quotes make no word.** -/
theorem mentions_enclosed (hword : IsWord word) {quote : Char} (hq : isWordLetter quote = false)
    (cs : List Char) : mentions word (Text.enclosedChars quote cs) = mentions word cs := by
  have hclose : beginsApart [quote] = true := by simp [beginsApart, hq]
  rw [Text.enclosedChars, mentions_cons hword hq, mentions_append hword hclose,
    mentions_doubled hword hq, mentions_cons hword hq]
  simp [mentions]

/-! ## Words over ASCII -/

theorem toUpper_of_isLetter {l c : Char} (hl : l.isLower = true) (hc : c.toNat < 128)
    (h : isLetter l c = true) : c.toUpper = l.toUpper := by
  simp only [isLetter, Bool.or_eq_true, beq_iff_eq, Bool.and_eq_true] at h
  rcases h with (rfl | rfl) | ⟨-, rfl⟩
  · rfl
  · exact Text.toUpper_toUpper l
  · exact absurd hc (by decide)

theorem isPrefixOf_of_afterLetters? {word : List Char} (hword : ∀ l ∈ word, l.isLower = true) :
    ∀ {cs : List Char}, (∀ c ∈ cs, c.toNat < 128) → (afterLetters? word cs).isSome = true →
      (word.map Char.toUpper).isPrefixOf (cs.map Char.toUpper) = true := by
  induction word with
  | nil => intro cs _ _; rfl
  | cons l word ih =>
    intro cs hcs h
    rw [List.forall_mem_cons] at hword
    cases cs with
    | nil => cases h
    | cons c cs =>
      rw [List.forall_mem_cons] at hcs
      rw [afterLetters?] at h
      split at h
      · rename_i hc
        rw [List.map_cons, List.map_cons, List.isPrefixOf_cons_cons,
          toUpper_of_isLetter hword.1 hcs.1 hc, beq_self_eq_true, Bool.true_and]
        exact ih hword.2 hcs.2 h
      · cases h

/-- **Over ASCII a word in any letter case is a word in the upper case of the text.** -/
theorem occursIn_of_mentions {word s : String} (hword : IsWord word.toList) (hs : Text.IsAscii s)
    (h : mentions word.toList s.toList = true) :
    Text.occursIn (Text.asciiUpper word) (Text.asciiUpper s) = true := by
  rw [Text.occursIn, Text.toList_asciiUpper, Text.toList_asciiUpper]
  unfold Text.IsAscii at hs
  generalize s.toList = cs at h hs
  induction cs with
  | nil => cases h
  | cons c cs ih =>
    rw [mentions, Bool.or_eq_true] at h
    rw [List.map_cons, Text.occursChars, Bool.or_eq_true]
    rcases h with h | h
    · exact .inl (isPrefixOf_of_afterLetters? hword.2 hs h)
    · exact .inr (ih h (List.forall_mem_cons.1 hs).2)

/-! ## Quiet texts -/

/-- A text over ASCII with neither of the words COMMENT and KEY, in any letter case. -/
structure Quiet (s : String) : Prop where
  ascii : Text.IsAscii s
  comment : Text.occursIn "COMMENT" (Text.asciiUpper s) = false
  key : Text.occursIn "KEY" (Text.asciiUpper s) = false

instance (s : String) : Decidable (Quiet s) :=
  decidable_of_iff (Text.IsAscii s ∧ Text.occursIn "COMMENT" (Text.asciiUpper s) = false ∧
    Text.occursIn "KEY" (Text.asciiUpper s) = false)
    ⟨fun ⟨ascii, comment, key⟩ => ⟨ascii, comment, key⟩, fun h => ⟨h.ascii, h.comment, h.key⟩⟩

def commentWord : List Char := "comment".toList

def keyWord : List Char := "key".toList

/-- A text in which the search finds neither COMMENT nor KEY. -/
structure Wordless (s : String) : Prop where
  comment : mentions commentWord s.toList = false
  key : mentions keyWord s.toList = false

/-- Such a text that cannot go on with a word begun before it either. -/
structure Silent (s : String) : Prop extends Wordless s where
  apart : beginsApart s.toList = true

instance (s : String) : Decidable (Wordless s) :=
  decidable_of_iff (mentions commentWord s.toList = false ∧ mentions keyWord s.toList = false)
    ⟨fun ⟨comment, key⟩ => ⟨comment, key⟩, fun h => ⟨h.comment, h.key⟩⟩

instance (s : String) : Decidable (Silent s) :=
  decidable_of_iff (Wordless s ∧ beginsApart s.toList = true)
    ⟨fun ⟨wordless, apart⟩ => ⟨wordless, apart⟩, fun h => ⟨h.toWordless, h.apart⟩⟩

theorem isWord_comment : IsWord commentWord := by decide

theorem isWord_key : IsWord keyWord := by decide

namespace Quiet

variable {s : String}

theorem wordless (h : Quiet s) : Wordless s := by
  have hnone {word : String} (hword : IsWord word.toList)
      (hw : Text.occursIn (Text.asciiUpper word) (Text.asciiUpper s) = false) :
      mentions word.toList s.toList = false := by
    cases hm : mentions word.toList s.toList with
    | false => rfl
    | true => rw [occursIn_of_mentions hword h.ascii hm] at hw; cases hw
  exact ⟨hnone isWord_comment h.comment, hnone isWord_key h.key⟩

theorem strip (h : Quiet s) : Quiet (Text.strip s) := by
  have hinfix : (Text.asciiUpper (Text.strip s)).toList <:+: (Text.asciiUpper s).toList := by
    rw [Text.toList_asciiUpper, Text.toList_asciiUpper]
    exact (Text.strip_isInfix s).map Char.toUpper
  have hnone {word : String} (hw : Text.occursIn word (Text.asciiUpper s) = false) :
      Text.occursIn word (Text.asciiUpper (Text.strip s)) = false := by
    rw [← Bool.not_eq_true, Text.occursIn_iff_isInfix] at hw ⊢
    exact fun hstripped => hw (hstripped.trans hinfix)
  exact ⟨h.ascii.strip, hnone h.comment, hnone h.key⟩

theorem asciiUpper (h : Quiet s) : Quiet (Text.asciiUpper s) :=
  ⟨h.ascii.asciiUpper, by rw [Text.asciiUpper_asciiUpper]; exact h.comment,
    by rw [Text.asciiUpper_asciiUpper]; exact h.key⟩

theorem upper (h : Quiet s) : Quiet (Text.upper s) := by
  rw [Text.upper_of_isAscii h.ascii]
  exact h.asciiUpper

end Quiet

/-! ## Pieces without words -/

theorem Wordless.append {a b : String} (ha : Wordless a) (hb : Silent b) : Wordless (a ++ b) := by
  constructor
  · rw [String.toList_append, mentions_append isWord_comment hb.apart, ha.comment, hb.comment]
    rfl
  · rw [String.toList_append, mentions_append isWord_key hb.apart, ha.key, hb.key]
    rfl

theorem beginsApart_append {a b : List Char} (ha : beginsApart a = true)
    (hb : beginsApart b = true) : beginsApart (a ++ b) = true := by
  cases a with
  | nil => exact hb
  | cons c a => exact ha

namespace Silent

theorem append {a b : String} (ha : Silent a) (hb : Silent b) : Silent (a ++ b) := by
  refine ⟨ha.toWordless.append hb, ?_⟩
  rw [String.toList_append]
  exact beginsApart_append ha.apart hb.apart

theorem space {s : String} (hs : Wordless s) : Silent (" " ++ s) := by
  have hspace : isWordLetter ' ' = false := by decide
  refine ⟨⟨?_, ?_⟩, by rw [String.toList_append]; rfl⟩
  · rw [String.toList_append]
    exact (mentions_cons isWord_comment hspace s.toList).trans hs.comment
  · rw [String.toList_append]
    exact (mentions_cons isWord_key hspace s.toList).trans hs.key

theorem enclosed {quote : Char} (hq : isWordLetter quote = false) {s : String}
    (hs : Wordless s) : Silent (Text.enclosed quote s) := by
  rw [Text.enclosed]
  refine ⟨⟨?_, ?_⟩, ?_⟩
  · rw [String.toList_ofList, mentions_enclosed isWord_comment hq]
    exact hs.comment
  · rw [String.toList_ofList, mentions_enclosed isWord_key hq]
    exact hs.key
  · rw [String.toList_ofList, Text.enclosedChars, beginsApart, hq]
    rfl

theorem quoteName (d : Dialect) {name : String} (hname : Wordless name) :
    Silent (quoteName d name) :=
  enclosed (by cases d <;> decide) hname

theorem of_no_letters {s : String} (h : ∀ c ∈ s.toList, isWordLetter c = false) : Silent s := by
  have hnone {word : List Char} (hword : IsWord word) : mentions word s.toList = false := by
    generalize s.toList = cs at h
    induction cs with
    | nil => rfl
    | cons c cs ih =>
      rw [List.forall_mem_cons] at h
      rw [mentions_cons hword h.1]
      exact ih h.2
  refine ⟨⟨hnone isWord_comment, hnone isWord_key⟩, ?_⟩
  cases hs : s.toList with
  | nil => rfl
  | cons c cs =>
    rw [beginsApart, h c (hs ▸ List.mem_cons_self ..)]
    rfl

theorem number (n : Nat) : Silent (toString n) := by
  have hdigit {c : Char} (hc : c.isDigit = true) : isWordLetter c = false :=
    Text.forall_ascii (p := fun c => c.isDigit = true → isWordLetter c = false)
      (by decide) (Text.toNat_lt_of_isDigit hc) hc
  exact of_no_letters fun c hc => hdigit (Text.isDigit_of_mem_toString hc)

end Silent

end TableSql
