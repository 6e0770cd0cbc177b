import Mathlib.Data.List.Forall2
import TableSql.Dialect

/-!
# Reading quoted parts back

* `Reader` — takes a value off the front of some characters and gives what follows it.
* `Reader.quoted`, `Reader.wordOrText` — one quoted part, perhaps with a word in its place.
* `Reader.separated`, `Reader.many` — as many items as there are, with a separator between them or
  one right behind the other.
* `ReadsBack` — a reader undoes a writer, wherever the text may go on as it does.

Principal results: `readsBack_quoted` (a quoted part is read back), `separated_intercalate` (a list
of items is read back, and what follows is left alone), `separated_quoteNames` (so are the names in
a statement) and `many_join` (items without a separator).
-/

set_option autoImplicit false

namespace TableSql

/-- Takes a value off the front of some characters and gives what follows it. -/
abbrev Reader (α : Type) := List Char → Option (α × List Char)

namespace Reader

variable {α : Type}

def quoted (mark : Char) : Reader String := fun cs =>
  (Text.readEnclosed? mark cs).map fun (s, rest) => (String.ofList s, rest)

/-- A word that stands for no text, or a quoted text. -/
def wordOrText (word : String) : Reader (Option String) := fun cs =>
  match cs.dropPrefix? word.toList with
  | some rest => some (none, rest)
  | none => (quoted '\'' cs).map fun (s, rest) => (some s, rest)

/-- Items, each behind a separator. Behind a separator there has to be an item, and an item may not
give back more than there was. -/
def behindSeparators (item : Reader α) (sep cs : List Char) : Option (List α × List Char) :=
  match cs.dropPrefix? sep with
  | none => some ([], cs)
  | some behind =>
    match item behind with
    | none => none
    | some (a, rest) =>
      if rest.length < cs.length then
        (behindSeparators item sep rest).map fun (as, rest) => (a :: as, rest)
      else none
termination_by cs.length

/-- As many items as there are, with a separator between them. -/
def separated (item : Reader α) (sep : List Char) : Reader (List α) := fun cs =>
  match item cs with
  | none => some ([], cs)
  | some (a, rest) =>
    (behindSeparators item sep rest).map fun (as, rest) => (a :: as, rest)

/-- As many items as there are, one right behind the other. An item has to take something. -/
def many (item : Reader α) (cs : List Char) : Option (List α × List Char) :=
  match item cs with
  | none => some ([], cs)
  | some (a, rest) =>
    if rest.length < cs.length then
      (many item rest).map fun (as, rest) => (a :: as, rest)
    else none
termination_by cs.length

end Reader

/-- A reader undoes a writer, wherever the text goes on in a way that does not carry the value on. -/
def ReadsBack {α : Type} (read : Reader α) (write : α → String) (goesOn : List Char → Prop) :
    Prop :=
  ∀ a rest, goesOn rest → read ((write a).toList ++ rest) = some (a, rest)

/-! ## Words and quoted parts -/

theorem dropPrefix?_append (word rest : List Char) :
    (word ++ rest).dropPrefix? word = some rest :=
  List.dropPrefix?_append_of_beq rest (by simp)

theorem dropPrefix?_eq_none {c : Char} {word rest : List Char} (hc : word.head? = some c)
    (h : rest.head? ≠ some c) : rest.dropPrefix? word = none := by
  cases word with
  | nil => cases hc
  | cons w word =>
    obtain rfl : w = c := by simpa using hc
    cases rest with
    | nil => rfl
    | cons d rest =>
      have hd : ¬ d = w := by simpa using h
      simp [List.dropPrefix?, hd]

theorem readEnclosed?_eq_none {mark : Char} {rest : List Char} (h : rest.head? ≠ some mark) :
    Text.readEnclosed? mark rest = none := by
  cases rest with
  | nil => rfl
  | cons c rest =>
    have hc : ¬ c = mark := by simpa using h
    rw [Text.readEnclosed?, if_neg hc]

/-- **A quoted part is read back, unless one more mark follows.** -/
theorem readsBack_quoted (mark : Char) :
    ReadsBack (Reader.quoted mark) (Text.enclosed mark) fun rest => rest.head? ≠ some mark := by
  intro s rest h
  rw [Reader.quoted, Text.enclosed, String.toList_ofList, Text.readEnclosed?_enclosed mark _ _ h]
  simp only [Option.map_some, String.ofList_toList]

theorem quoted_quoteName {d : Dialect} {rest : List Char} (h : rest.head? ≠ some d.nameQuote)
    (name : String) :
    Reader.quoted d.nameQuote ((quoteName d name).toList ++ rest) = some (name, rest) :=
  readsBack_quoted d.nameQuote name rest h

theorem quoted_quoteText {rest : List Char} (h : rest.head? ≠ some '\'') (text : String) :
    Reader.quoted '\'' ((quoteText text).toList ++ rest) = some (text, rest) :=
  readsBack_quoted '\'' text rest h

theorem quoted_eq_none {mark : Char} {rest : List Char} (h : rest.head? ≠ some mark) :
    Reader.quoted mark rest = none := by
  rw [Reader.quoted, readEnclosed?_eq_none h, Option.map_none]

/-- A word or a quoted text is read back, unless one more quote follows. -/
theorem readsBack_wordOrText {word : String} {c : Char} (hc : word.toList.head? = some c)
    (hquote : c ≠ '\'') :
    ReadsBack (Reader.wordOrText word) (fun text => (text.map quoteText).getD word)
      fun rest => rest.head? ≠ some '\'' := by
  intro text rest h
  cases text with
  | none =>
    change Reader.wordOrText word (word.toList ++ rest) = some (none, rest)
    rw [Reader.wordOrText, dropPrefix?_append]
  | some s =>
    have hword : ((quoteText s).toList ++ rest).dropPrefix? word.toList = none := by
      refine dropPrefix?_eq_none hc ?_
      simpa [quoteText, Text.enclosed, Text.enclosedChars] using hquote.symm
    change Reader.wordOrText word ((quoteText s).toList ++ rest) = some (some s, rest)
    rw [Reader.wordOrText, hword, quoted_quoteText h, Option.map_some]

theorem wordOrText_eq_none {word : String} {c : Char} (hc : word.toList.head? = some c)
    {rest : List Char} (hword : rest.head? ≠ some c) (hquote : rest.head? ≠ some '\'') :
    Reader.wordOrText word rest = none := by
  rw [Reader.wordOrText, dropPrefix?_eq_none hc hword, quoted_eq_none hquote, Option.map_none]

/-! ## Lists -/

section Lists

variable {α : Type} {read : Reader α} {write : α → String} {goesOn : List Char → Prop}
  {c : Char} {sep : List Char}

/-- Behind an item comes a separator or what follows the list. -/
theorem goesOn_items (write : α → String) (hsep : ∀ rest, goesOn (sep ++ rest)) {rest : List Char}
    (hrest : goesOn rest) (as : List α) :
    goesOn ((as.flatMap fun a => sep ++ (write a).toList) ++ rest) := by
  cases as with
  | nil => exact hrest
  | cons a as =>
    rw [List.flatMap_cons, List.append_assoc, List.append_assoc]
    exact hsep _

theorem behindSeparators_eq (hread : ReadsBack read write goesOn) (hc : sep.head? = some c)
    (hsep : ∀ rest, goesOn (sep ++ rest)) {rest : List Char} (hrest : goesOn rest)
    (hend : rest.head? ≠ some c) (as : List α) :
    Reader.behindSeparators read sep
      ((as.flatMap fun a => sep ++ (write a).toList) ++ rest) = some (as, rest) := by
  induction as with
  | nil =>
    rw [List.flatMap_nil, List.nil_append, Reader.behindSeparators, dropPrefix?_eq_none hc hend]
  | cons a as ih =>
    have hitem := hread a _ (goesOn_items write hsep hrest as)
    have hpos : 0 < sep.length := by
      cases sep with
      | nil => cases hc
      | cons _ _ => simp
    rw [List.flatMap_cons, List.append_assoc, List.append_assoc, Reader.behindSeparators,
      dropPrefix?_append]
    simp only [hitem, ih, Option.map_some]
    rw [if_pos]
    simp only [List.length_append]
    omega

theorem toList_intercalate_cons (sep : String) (a : String) (as : List String) :
    (sep.intercalate (a :: as)).toList =
      a.toList ++ as.flatMap fun b => sep.toList ++ b.toList := by
  induction as generalizing a with
  | nil => simp
  | cons b as ih =>
    rw [String.intercalate_cons_cons, String.toList_append, String.toList_append, ih,
      List.flatMap_cons, List.append_assoc, List.append_assoc]

/-- **A list of items is read back, and what follows is left alone.** -/
theorem separated_intercalate {sep : String} (hread : ReadsBack read write goesOn)
    (hc : sep.toList.head? = some c) (hsep : ∀ rest, goesOn (sep.toList ++ rest))
    {rest : List Char} (hrest : goesOn rest) (hend : rest.head? ≠ some c)
    (hnone : read rest = none) (as : List α) :
    Reader.separated read sep.toList ((sep.intercalate (as.map write)).toList ++ rest) =
      some (as, rest) := by
  cases as with
  | nil =>
    rw [List.map_nil, String.intercalate_nil, String.toList_empty, List.nil_append,
      Reader.separated, hnone]
  | cons a as =>
    have hitem := hread a _ (goesOn_items write hsep hrest as)
    have hmore := behindSeparators_eq hread hc hsep hrest hend as
    rw [List.map_cons, toList_intercalate_cons, List.flatMap_map, List.append_assoc,
      Reader.separated, hitem]
    simp only [hmore, Option.map_some]

/-- **Items right behind each other are read back, if they end by themselves.** -/
theorem many_join (hread : ReadsBack read write fun _ => True) (hne : ∀ a, write a ≠ "")
    {rest : List Char} (hnone : read rest = none) (as : List α) :
    Reader.many read ((String.join (as.map write)).toList ++ rest) = some (as, rest) := by
  induction as with
  | nil =>
    rw [List.map_nil, String.join_nil, String.toList_empty, List.nil_append, Reader.many, hnone]
  | cons a as ih =>
    have hitem := hread a ((String.join (as.map write)).toList ++ rest) trivial
    have hpos : 0 < (write a).toList.length :=
      List.length_pos_of_ne_nil (by simpa using hne a)
    rw [List.map_cons, String.join_cons, String.toList_append, List.append_assoc, Reader.many,
      hitem]
    simp only [ih, Option.map_some]
    rw [if_pos]
    simp only [List.length_append]
    omega

end Lists

/-- **Quoted names are read back, where neither one more quote nor a comma follows.** -/
theorem separated_quoteNames {d : Dialect} {rest : List Char}
    (hquote : rest.head? ≠ some d.nameQuote) (hcomma : rest.head? ≠ some ',')
    (names : List String) :
    Reader.separated (Reader.quoted d.nameQuote) ", ".toList
      ((quoteNames d names).toList ++ rest) = some (names, rest) := by
  have hsep (more : List Char) : (", ".toList ++ more).head? ≠ some d.nameQuote := by
    cases d <;> simp [Dialect.nameQuote]
  exact separated_intercalate (readsBack_quoted d.nameQuote) (by decide) hsep hquote hcomma
    (quoted_eq_none hquote) names

end TableSql
