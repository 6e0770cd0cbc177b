/-!
# Quoted text

A quoted text stands between two quote characters; a quote character inside it is written twice.

* `doubled` — the inside of a quoted text.
* `enclosed` — a text with its quotes.
* `readEnclosed?` — reads one quoted text and gives what follows it.

Main statements: `readEnclosed?_enclosed` (whatever is written is read back, and what follows is
left alone, unless it starts with one more quote), and from it `enclosedChars_append_inj` and
`append_enclosedChars_inj` (a quoted text is known from either end).
-/

set_option autoImplicit false

namespace TableSql.Text

/-- The characters of a quoted text, each quote written twice. -/
def doubled (quote : Char) : List Char → List Char
  | [] => []
  | c :: cs => if c = quote then quote :: quote :: doubled quote cs else c :: doubled quote cs

/-- The characters of a quoted text with its quotes. -/
def enclosedChars (quote : Char) (cs : List Char) : List Char :=
  quote :: (doubled quote cs ++ [quote])

def enclosed (quote : Char) (s : String) : String := String.ofList (enclosedChars quote s.toList)

/-- Reads the characters of a quoted text up to and with the closing quote. -/
def readDoubled? (quote : Char) : List Char → Option (List Char × List Char)
  | [] => none
  | [c] => if c = quote then some ([], []) else none
  | c :: d :: cs =>
    if c = quote then
      if d = quote then (readDoubled? quote cs).map fun (s, rest) => (quote :: s, rest)
      else some ([], d :: cs)
    else (readDoubled? quote (d :: cs)).map fun (s, rest) => (c :: s, rest)

/-- Reads a quoted text, quotes included, and gives its characters and what follows. -/
def readEnclosed? (quote : Char) : List Char → Option (List Char × List Char)
  | [] => none
  | c :: cs => if c = quote then readDoubled? quote cs else none

/-! ## Laws -/

@[simp] theorem doubled_nil (quote : Char) : doubled quote [] = [] := rfl

theorem doubled_append (quote : Char) (a b : List Char) :
    doubled quote (a ++ b) = doubled quote a ++ doubled quote b := by
  induction a with
  | nil => rfl
  | cons c a ih => by_cases h : c = quote <;> simp [doubled, h, ih]

theorem readDoubled?_doubled (quote : Char) (s rest : List Char) (h : rest.head? ≠ some quote) :
    readDoubled? quote (doubled quote s ++ quote :: rest) = some (s, rest) := by
  induction s with
  | nil =>
    cases rest with
    | nil => simp [readDoubled?]
    | cons d rest =>
      have : ¬ d = quote := by simpa using h
      simp [readDoubled?, this]
  | cons c s ih =>
    by_cases hc : c = quote
    · subst hc
      simp [doubled, readDoubled?, ih]
    · simp only [doubled, hc, if_false, List.cons_append]
      cases hs : doubled quote s ++ quote :: rest with
      | nil => simp at hs
      | cons d ds =>
        rw [hs] at ih
        simp [readDoubled?, hc, ih]

/-- Whatever is written is read back, and what follows is left alone. -/
theorem readEnclosed?_enclosed (quote : Char) (s rest : List Char) (h : rest.head? ≠ some quote) :
    readEnclosed? quote (enclosedChars quote s ++ rest) = some (s, rest) := by
  simp only [enclosedChars, List.cons_append, List.append_assoc, List.nil_append, readEnclosed?,
    if_true]
  exact readDoubled?_doubled quote s rest h

/-- A quoted text in front of others, which do not start with a quote, is the same in both. -/
theorem enclosedChars_append_inj {quote : Char} {s t a b : List Char}
    (ha : a.head? ≠ some quote) (hb : b.head? ≠ some quote)
    (h : enclosedChars quote s ++ a = enclosedChars quote t ++ b) : s = t ∧ a = b := by
  have hread := readEnclosed?_enclosed quote s a ha
  rw [h, readEnclosed?_enclosed quote t b hb] at hread
  simp only [Option.some.injEq, Prod.mk.injEq] at hread
  exact ⟨hread.1.symm, hread.2.symm⟩

theorem enclosedChars_reverse (quote : Char) (s : List Char) :
    (enclosedChars quote s).reverse = enclosedChars quote s.reverse := by
  have hinside : (doubled quote s).reverse = doubled quote s.reverse := by
    induction s with
    | nil => rfl
    | cons c s ih =>
      rw [List.reverse_cons, doubled_append, ← ih]
      by_cases hc : c = quote <;> simp [doubled, hc]
  simp [enclosedChars, hinside]

/-- The same behind others, which do not end with a quote. -/
theorem append_enclosedChars_inj {quote : Char} {a b s t : List Char}
    (ha : a.getLast? ≠ some quote) (hb : b.getLast? ≠ some quote)
    (h : a ++ enclosedChars quote s = b ++ enclosedChars quote t) : a = b ∧ s = t := by
  rw [← List.head?_reverse] at ha hb
  have hback := congrArg List.reverse h
  rw [List.reverse_append, List.reverse_append, enclosedChars_reverse, enclosedChars_reverse]
    at hback
  obtain ⟨hs, hfront⟩ := enclosedChars_append_inj ha hb hback
  exact ⟨List.reverse_inj.1 hfront, List.reverse_inj.1 hs⟩

end TableSql.Text
