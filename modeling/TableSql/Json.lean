import TableSql.Decimal.Shortest

/-!
# JSON values

* `Json`, `JsonNumber` — values; a number is whole or a binary fraction.
* `Json.compact` — a value as text without white space.
* `Json.insertField` — a field of an object, kept in the order of the names; a name that is given
  again replaces the earlier one.
-/

set_option autoImplicit false

namespace TableSql

/-- A number of a JSON text: whole if it is written so and fits 64 bits, else a binary fraction with
a sign. -/
inductive JsonNumber where
  | whole (n : Int)
  | fraction (negative : Bool) (magnitude : Binary64)
  deriving DecidableEq, Repr

inductive Json where
  | null
  | bool (b : Bool)
  | number (n : JsonNumber)
  | string (s : String)
  | array (items : List Json)
  | object (fields : List (String × Json))
  deriving Repr

/-- Fractions are written without an exponent from `0.00001` on and below `1e+16`. -/
def JsonNumber.layout : DecimalLayout := ⟨-4, 16, "+"⟩

def JsonNumber.text : JsonNumber → String
  | whole n => toString n
  | fraction negative magnitude =>
    (if negative then "-" else "") ++ magnitude.shortest.render layout

namespace Json

/-- A character inside a JSON string. Quotes, backslashes and controls are escaped. -/
def escapeChar (c : Char) : List Char :=
  if c = '"' then ['\\', '"']
  else if c = '\\' then ['\\', '\\']
  else if c = '\x08' then ['\\', 'b']
  else if c = '\x0c' then ['\\', 'f']
  else if c = '\n' then ['\\', 'n']
  else if c = '\r' then ['\\', 'r']
  else if c = '\t' then ['\\', 't']
  else if c.toNat < 0x20 then
    ['\\', 'u', '0', '0', Nat.digitChar (c.toNat / 16), Nat.digitChar (c.toNat % 16)]
  else [c]

def quote (s : String) : String := "\"" ++ String.ofList (s.toList.flatMap escapeChar) ++ "\""

mutual

/-- A value as text without white space. -/
def compact : Json → String
  | null => "null"
  | bool b => if b then "true" else "false"
  | number n => n.text
  | string s => quote s
  | array items => "[" ++ ",".intercalate (compactItems items) ++ "]"
  | object fields => "\x7b" ++ ",".intercalate (compactFields fields) ++ "\x7d"

def compactItems : List Json → List String
  | [] => []
  | item :: items => item.compact :: compactItems items

def compactFields : List (String × Json) → List String
  | [] => []
  | (name, value) :: fields => (quote name ++ ":" ++ value.compact) :: compactFields fields

end

/-- Adds a field to fields in the order of their names. -/
def insertField (name : String) (value : Json) : List (String × Json) → List (String × Json)
  | [] => [(name, value)]
  | (n, v) :: fields =>
    if name = n then (name, value) :: fields
    else if name < n then (name, value) :: (n, v) :: fields
    else (n, v) :: insertField name value fields

/-- The value of a field of an object. -/
def field? (name : String) : Json → Option Json
  | object fields => fields.lookup name
  | _ => none

/-- A text or nothing as a JSON value. -/
def ofText? : Option String → Json
  | some s => string s
  | none => null

def ofNat (n : Nat) : Json := number (.whole n)

end Json

end TableSql
