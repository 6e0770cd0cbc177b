import TableSql.Error
import TableSql.Text.Blank

/-!
# Grid templates

* `columnIndex?` — the place of a column that is named by letters: `A` is 0, `Z` is 25, `AA` is 26.
* `GridTemplate` — which columns of a grid describe the columns of a table, and from which row on.
* `GridTemplate.places?` — the places of these columns.

Letters are read as digits from 1 to 26 in base 26, and the number must fit 64 bits.
-/

set_option autoImplicit false

namespace TableSql

/-! ## Column letters -/

inductive AddressFault where
  | empty
  | unexpected (c : Char)
  | overflow
  deriving DecidableEq, Repr

def AddressFault.message : AddressFault → String
  | empty => "column letters must not be empty"
  | unexpected c => s!"unexpected character '{c}', only A-Z are allowed"
  | overflow => "column index overflow"

/-- The greatest number that letters can stand for. -/
def maxColumnNumber : Nat := UInt64.size - 1

/-- The digit of a letter, from 1 to 26. -/
def letterDigit? (c : Char) : Option Nat :=
  let upper := c.toUpper
  if 'A' ≤ upper ∧ upper ≤ 'Z' then some (upper.toNat - 64) else none

/-- The number of letters that follow those of `n`. -/
def columnNumber? (n : Nat) : List Char → Except AddressFault Nat
  | [] => .ok n
  | c :: cs =>
    match letterDigit? c with
    | none => .error (.unexpected c)
    | some digit =>
      let next := n * 26 + digit
      if next ≤ maxColumnNumber then columnNumber? next cs else .error .overflow

/-- The number of letters, from 1 on; white space around them does not count. -/
def lettersNumber? (letters : String) : Except AddressFault Nat :=
  match Text.stripChars letters.toList with
  | [] => .error .empty
  | cs => columnNumber? 0 cs

/-- The place of a column that is named by letters, from 0 on. -/
def columnIndex? (letters : String) : Except TableError Nat :=
  match lettersNumber? letters with
  | .ok n => .ok (n - 1)
  | .error fault => .error (.invalidAddress letters fault.message)

/-! ## Templates -/

/-- Which columns of a grid describe the columns of a table, and from which row on; the first row
has the number 1. -/
structure GridTemplate where
  startRow : UInt64
  nameColumn : String
  typeColumn : String
  commentColumn : Option String := none
  keyColumn : Option String := none
  deriving DecidableEq, Repr

/-- A text that is present and not blank. -/
def nonBlank? (text : Option String) : Option String := text.filter (!Text.isBlankText ·)

namespace GridTemplate

/-- The letters of the column with comments, if there is one. -/
def commentLetters (t : GridTemplate) : Option String := nonBlank? t.commentColumn

/-- The letters of the column that marks the primary key, if there is one. -/
def keyLetters (t : GridTemplate) : Option String := nonBlank? t.keyColumn

/-- The places of a template's columns. -/
structure Places where
  name : Nat
  typeName : Nat
  comment : Option Nat
  key : Option Nat
  deriving DecidableEq, Repr

/-- The place of a column that may be left out. -/
def place? : Option String → Except TableError (Option Nat)
  | none => .ok none
  | some letters => (columnIndex? letters).map some

/-- The places of a template's columns. -/
def places? (t : GridTemplate) : Except TableError Places := do
  let name ← columnIndex? t.nameColumn
  let typeName ← columnIndex? t.typeColumn
  let comment ← place? t.commentLetters
  let key ← place? t.keyLetters
  return { name, typeName, comment, key }

end GridTemplate

end TableSql
