import TableSql.Ddl.Clauses

/-!
# Types of MySQL and Doris

* `Column.typeText` — the type of a column with the length and scale that its kind of type takes.
* `splitArguments` — a type cut before its arguments.
* `Column.dorisType`, `Column.mysqlType` — the type of the one dialect for that of the other.
-/

set_option autoImplicit false

namespace TableSql

/-- Is there an opening parenthesis with a closing one after it? -/
def hasArguments (typeText : List Char) : Bool := (typeText.dropWhile (· ≠ '(')).contains ')'

/-- A type cut before its first parenthesis, if it ends with one: what comes before, and what stands
between, each without white space at its ends. -/
def splitArguments (typeText : List Char) : List Char × Option (List Char) :=
  match typeText.span (· ≠ '(') with
  | (base, '(' :: inside) =>
    if inside.getLast? = some ')' then
      (Text.stripBack base, some (Text.stripChars inside.dropLast))
    else (typeText, none)
  | _ => (typeText, none)

/-- One or more digits and nothing else. -/
def isDigits (cs : List Char) : Bool := !cs.isEmpty && cs.all Char.isDigit

/-- Two numbers separated by a comma. -/
def isNumberPair (cs : List Char) : Bool :=
  match cs.span (· ≠ ',') with
  | (a, ',' :: b) => isDigits (Text.stripChars a) && isDigits (Text.stripChars b)
  | _ => false

namespace Column

/-- The type of a column in upper case, with the length and scale that its kind of type takes. A
type that comes with arguments is left as it is. -/
def typeText (c : Column) : String :=
  let upper := Text.upper (Text.strip c.typeName)
  let length := positive? c.length
  let scale := positive? c.scale
  let withLength := (length.map fun n => s!"({n.toNat})").getD ""
  if hasArguments upper.toList then upper
  else upper ++
    match upper with
    | "VARCHAR" | "CHAR" | "VARBINARY" | "BINARY" => withLength
    | "DECIMAL" | "NUMERIC" =>
      match length, scale with
      | some length, some scale => s!"({length.toNat},{scale.toNat})"
      | _, _ => withLength
    | "DATETIME" | "TIMESTAMP" | "TIME" => (scale.map fun n => s!"({n.toNat})").getD ""
    | _ => ""

/-- The Doris type for a type of MySQL, given its name and its arguments; `none` if the type is the
same. A one-digit TINYINT is a truth value, and widths of numbers and times are dropped. -/
def dorisTypeOf? (length : Option UInt32) (base : String) (arguments : Option (List Char)) :
    Option String :=
  match base, arguments with
  | "TINYINT", some ['1'] => some "BOOLEAN"
  | "TINYINT", none => if length = some 1 then some "BOOLEAN" else none
  | "BIGINT", some width | "INT", some width | "TINYINT", some width | "SMALLINT", some width
  | "MEDIUMINT", some width => if isDigits width then some base else none
  | "DOUBLE", some precision | "FLOAT", some precision =>
    if isNumberPair precision then some base else none
  | "TEXT", none | "LONGTEXT", none | "MEDIUMTEXT", none | "TINYTEXT", none => some "STRING"
  | "DATETIME", none | "TIMESTAMP", none => some "DATETIME"
  | "DATETIME", some digits | "TIMESTAMP", some digits =>
    if isDigits digits then some "DATETIME" else none
  | "VARCHAR", none => some "STRING"
  | _, _ => none

/-- The Doris type of a column with a type of MySQL. -/
def dorisType (c : Column) : String :=
  let (base, arguments) := splitArguments c.typeText.toList
  (dorisTypeOf? c.length (String.ofList base) arguments).getD c.typeText

/-- The MySQL type of a column with a type of Doris. -/
def mysqlType (c : Column) : String :=
  match c.typeText with
  | "STRING" => "TEXT"
  | "BOOLEAN" => "TINYINT(1)"
  | other => other

end Column

end TableSql
