/-!
# Reading positions in a YAML text

* `Cursor` — the rest of a text with the place where it starts, and a bound for loops over it.
* `Cursor.skipRestOfLine?` — over white space and a comment up to the end of a line.

The text has one kind of line break and no null character, as `unifyBreaks` makes it. Main
statement: `not_mem_unifyBreaks`.
-/

set_option autoImplicit false

namespace TableSql.Yaml

/-- A text in which every line ends in a line feed. A null character ends the text. -/
def unifyBreaks : List Char → List Char
  | [] => []
  | '\x00' :: _ => []
  | '\r' :: '\n' :: cs => '\n' :: unifyBreaks cs
  | '\r' :: cs => '\n' :: unifyBreaks cs
  | c :: cs => c :: unifyBreaks cs

/-- No carriage return and no null character is left. -/
theorem not_mem_unifyBreaks (cs : List Char) :
    '\r' ∉ unifyBreaks cs ∧ '\x00' ∉ unifyBreaks cs := by
  fun_induction unifyBreaks cs with
  | case1 => simp
  | case2 => simp
  | case3 _ ih => simpa using ih
  | case4 _ _ ih => simpa using ih
  | case5 c cs _ _ _ ih => grind

/-- The rest of a text with the place where it starts. -/
structure Cursor where
  rest : List Char
  line : Nat := 0
  column : Nat := 0
  offset : Nat := 0
  /-- Has there been nothing but white space on the line? -/
  fresh : Bool := true
  /-- No fewer than the characters that are left. -/
  bound : Nat

def Cursor.start (text : List Char) : Cursor := { rest := text, bound := text.length }

/-- Spaces and tabs. -/
def isGap (c : Char) : Bool := c == ' ' || c == '\t'

/-- A gap, a line break or the end of the text. -/
def isGapOrEnd : Option Char → Bool
  | none => true
  | some c => isGap c || c == '\n'

/-- A line break or the end of the text. -/
def isBreakOrEnd : Option Char → Bool
  | none => true
  | some c => c == '\n'

/-- The characters that build collections between brackets. -/
def isFlowMark (c : Char) : Bool := [',', '[', ']', '\x7b', '\x7d'].contains c

/-- The characters of names: letters, digits, underscores and dashes. -/
def isWordChar (c : Char) : Bool := c.isAlphanum || c == '_' || c == '-'

def hexValue? (c : Char) : Option Nat :=
  if '0' ≤ c ∧ c ≤ '9' then some (c.toNat - 48)
  else if 'a' ≤ c ∧ c ≤ 'f' then some (c.toNat - 87)
  else if 'A' ≤ c ∧ c ≤ 'F' then some (c.toNat - 55)
  else none

namespace Cursor

def peek (c : Cursor) : Option Char := c.rest.head?

def peekSecond (c : Cursor) : Option Char := c.rest.tail.head?

/-- Over a character that is not a line break. -/
def step (c : Cursor) : Cursor :=
  { c with rest := c.rest.tail, column := c.column + 1, offset := c.offset + 1, fresh := false }

def stepGap (c : Cursor) : Cursor :=
  { c with rest := c.rest.tail, column := c.column + 1, offset := c.offset + 1 }

def stepBreak (c : Cursor) : Cursor :=
  { c with
    rest := c.rest.tail, line := c.line + 1, column := 0, offset := c.offset + 1, fresh := true }

/-- Over a number of characters that are not line breaks. -/
def steps (c : Cursor) (n : Nat) : Cursor :=
  if n = 0 then c
  else { c with
    rest := c.rest.drop n, column := c.column + n, offset := c.offset + n, fresh := false }

def toLineEnd (c : Cursor) : Cursor :=
  let n := (c.rest.takeWhile (· ≠ '\n')).length
  { c with rest := c.rest.drop n, column := c.column + n, offset := c.offset + n }

/-- Is the line's first part one character three times and then a gap or an end? -/
def startsMark (mark : Char) (c : Cursor) : Bool :=
  match c.rest with
  | x :: y :: z :: rest => x == mark && y == mark && z == mark && isGapOrEnd rest.head?
  | _ => false

/-- Does a document start or end here? -/
def atDocumentMark (c : Cursor) : Bool := c.startsMark '-' || c.startsMark '.'

/-- Gaps at the start of a text: how many there are, and whether there are tabs and spaces. -/
def gapRun (tabs : Bool) : List Char → Nat × Bool × Bool
  | ' ' :: cs => let (n, tab, _) := gapRun tabs cs; (n + 1, tab, true)
  | '\t' :: cs =>
    if tabs then let (n, _, space) := gapRun tabs cs; (n + 1, true, space) else (0, false, false)
  | _ => (0, false, false)

def skipGaps (c : Cursor) : Cursor :=
  let n := (gapRun true c.rest).1
  { c with rest := c.rest.drop n, column := c.column + n, offset := c.offset + n }

/-- What stood between a token and the end of its line. -/
structure LineRest where
  tab : Bool
  space : Bool

/-- Over white space, with or without tabs, and a comment. A comment must not touch what is before
it. -/
def skipRestOfLine? (tabs : Bool) (c : Cursor) : Option (Cursor × LineRest) :=
  let (n, tab, space) := gapRun tabs c.rest
  let after : Cursor :=
    { c with rest := c.rest.drop n, column := c.column + n, offset := c.offset + n }
  if after.peek = some '#' then
    if n = 0 then none else some (after.toLineEnd, ⟨tab, space⟩)
  else some (after, ⟨tab, space⟩)

end Cursor

end TableSql.Yaml
