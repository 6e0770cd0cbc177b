import TableSql.Data.Format
import TableSql.Json

/-!
# Records as JSON

* `Json.format` — records are objects, or arrays that hold the fields in order and may leave out the
  last ones; nothing is `null`.
-/

set_option autoImplicit false

namespace TableSql.Json

/-- The fields of a record: those of an object, or the items of an array, each under the first of
the names of its field. -/
def fieldsOf? (names : List (List String)) : Json → Option (List (String × Json))
  | object fields => some fields
  | array items =>
    if items.length ≤ names.length then some ((names.map (·.headD "")).zip items) else none
  | _ => none

def itemsOf? : Json → Option (List Json)
  | array items => some items
  | _ => none

def textOf? : Json → Option String
  | string s => some s
  | _ => none

/-- A word, given as a string or as the one name of an object that gives it nothing. -/
def wordOf? : Json → Option String
  | string s => some s
  | object [(s, null)] => some s
  | _ => none

/-- A whole number that is not negative. -/
def natOf? : Json → Option Nat
  | number (.whole n) => if 0 ≤ n then some n.toNat else none
  | _ => none

def flagOf? : Json → Option Bool
  | bool b => some b
  | _ => none

def isNull : Json → Bool
  | null => true
  | _ => false

/-- Records as JSON. -/
def format : DataFormat Json where
  fields? := fieldsOf?
  items? := itemsOf?
  text? := textOf?
  word? := fun _ => wordOf?
  nat? := natOf?
  flag? := flagOf?
  isNull := isNull

end TableSql.Json
