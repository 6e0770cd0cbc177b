import TableSql.Grid.Template
import TableSql.Table

/-!
# Tables described in a grid

* `splitPrecision?` — a cell of the form `name(length)` or `name(length, scale)`, cut into parts.
* `Column.ofCells` — the column that a name and a type cell describe. A cell of any other form is
  taken as the name of a type.
* `extractTable?` — the table that the rows of a grid describe, as a template says.
* `tableNameOfSheet` — a table's name made from the name of a sheet.
-/

set_option autoImplicit false

namespace TableSql

/-! ## Type cells -/

/-- A letter from `A` to `Z` or `a` to `z`. -/
def isAsciiLetter (c : Char) : Bool := ('A' ≤ c && c ≤ 'Z') || ('a' ≤ c && c ≤ 'z')

def isTypeNameChar (c : Char) : Bool := isAsciiLetter c || c.isDigit || c == '_' || c == ' '

/-- The number that decimal digits stand for. -/
def digitsValue (digits : List Char) : Nat := digits.foldl (fun n d => n * 10 + (d.toNat - 48)) 0

/-- The number that a text starts with, white space around it left out, and the rest. -/
def paddedNumber? (cs : List Char) : Option (Nat × List Char) :=
  let (digits, rest) := (Text.stripFront cs).span Char.isDigit
  if digits.isEmpty then none else some (digitsValue digits, Text.stripFront rest)

/-- The numbers up to the closing parenthesis, after which only white space follows. -/
def precision? (cs : List Char) : Option (Nat × Option Nat) := do
  let (length, rest) ← paddedNumber? cs
  let (scale, rest) ←
    match rest with
    | ',' :: rest => (paddedNumber? rest).map fun (n, rest) => (some n, rest)
    | rest => some (none, rest)
  match rest with
  | ')' :: rest => if rest.all Text.isBlank then some (length, scale) else none
  | _ => none

/-- The name, length and scale of a type cell of the form `name(length)` or `name(length, scale)`,
whose numbers fit 32 bits. -/
def splitPrecision? (cell : String) : Option (String × UInt32 × Option UInt32) := do
  let (name, rest) := (Text.stripFront cell.toList).span isTypeNameChar
  let first ← name.head?
  if !isAsciiLetter first then none
  else
    match Text.stripFront rest with
    | '(' :: rest =>
      let (length, scale) ← precision? rest
      let length ← word32? length
      let scale ←
        match scale with
        | none => some none
        | some n => (word32? n).map some
      return (String.ofList (Text.stripBack name), length, scale)
    | _ => none

/-- The column that a name and a type cell describe. -/
def Column.ofCells (name typeCell : String) : Column :=
  match splitPrecision? typeCell with
  | some (typeName, length, scale) => { name, typeName, length := some length, scale }
  | none => { name, typeName := typeCell }

/-! ## Rows -/

/-- The stripped text at a place of a row; a missing cell is empty. -/
def cellAt (row : List String) (place : Nat) : String := (row[place]?.map Text.strip).getD ""

/-- Does a cell mark a column of the primary key? -/
def isKeyMark (cell : String) : Bool := ["y", "yes", "1", "是"].contains (Text.lower cell)

/-- The column that a row describes. A row without a name or a type describes none. -/
def GridTemplate.Places.column? (p : GridTemplate.Places) (row : List String) : Option Column :=
  let name := cellAt row p.name
  let typeCell := cellAt row p.typeName
  if name = "" ∨ typeCell = "" then none
  else
    let isKey := (p.key.map fun place => isKeyMark (cellAt row place)).getD false
    let comment := nonEmpty? (p.comment.map (cellAt row))
    some { Column.ofCells name typeCell with nullable := !isKey, isKey, comment }

/-- The table that the rows of a grid describe. -/
def extractTable? (name : String) (grid : List (List String)) (template : GridTemplate) :
    Except TableError Table := do
  let places ← template.places?
  if template.startRow = 0 then
    throw (.invalidAddress "0" "data_start_row is 1-based and must be at least 1")
  let rows := grid.drop (template.startRow.toNat - 1)
  return { name, columns := rows.filterMap places.column? }

/-- A character of a table's name made from the name of a sheet. -/
def sheetNameChar (c : Char) : Char :=
  if ('a' ≤ c && c ≤ 'z') || c.isDigit || c == '_' then c else '_'

/-- A table's name made from the name of a sheet: in lower case, with an underscore for each
character that is not a letter from `a` to `z`, a digit or an underscore. -/
def tableNameOfSheet (sheet : String) : String :=
  String.ofList ((Text.lower sheet).toList.map sheetNameChar)

end TableSql
