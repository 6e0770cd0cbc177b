import TableSql.Dialect
import TableSql.Table
import TableSql.Text.Search

/-!
# The clauses of a column definition

* `LengthText` — what may stand behind the name of a type.
* `ColumnClauses` — the parts of a column definition, in the order in which they are written.
* `Column.typeToken` — the type of a column in a dialect, without its length.
* `Column.clauses` — the parts of a column's definition in a dialect.
* `Column.definition` — the definition as one text.

A serial column is never null and takes its values from a sequence, so NOT NULL and DEFAULT are
left out for it.

Main statement: `Dialect.typeName_cases` (a dialect numbers a key by a sequence, knows a type by
another name, or leaves it as it is).
-/

set_option autoImplicit false

namespace TableSql

/-- Types that never carry a length, in lower case. -/
def isLengthExempt (typeName : String) : Bool :=
  ["datetime", "text", "date", "timestamp", "serial"].contains typeName

/-- Does a type take its values from a sequence? -/
def isSerial (typeName : String) : Bool := Text.occursIn "SERIAL" (Text.asciiUpper typeName)

/-- A number that is given and not zero. -/
def positive? (n : Option UInt32) : Option UInt32 := n.filter (· ≠ 0)

/-- A length, with its scale if there is one, in parentheses. Zero counts as not given. -/
def lengthClause (length scale : Option UInt32) : Option String :=
  (positive? length).map fun length =>
    match positive? scale with
    | some scale => s!"({length.toNat},{scale.toNat})"
    | none => s!"({length.toNat})"

/-- What may stand behind the name of a type: nothing, a length, or a length and a scale. -/
inductive LengthText : String → Prop where
  | absent : LengthText ""
  | length (n : Nat) : LengthText s!"({n})"
  | precision (n m : Nat) : LengthText s!"({n},{m})"

theorem LengthText.induction {P : String → Prop} (hnil : P "")
    (happend : ∀ {a b}, P a → P b → P (a ++ b)) (hopen : P "(") (hcomma : P ",") (hclose : P ")")
    (hnumber : ∀ n : Nat, P (toString n)) {s : String} (h : LengthText s) : P s := by
  cases h with
  | absent => exact hnil
  | length n => exact happend (happend hopen (hnumber n)) hclose
  | precision n m =>
    exact happend (happend (happend (happend hopen (hnumber n)) hcomma) (hnumber m)) hclose

/-- The parts of a column definition, in the order in which they are written. -/
structure ColumnClauses where
  typeToken : String
  length : Option String
  notNull : Option String
  autoNumber : Option String
  default? : Option String
  comment : Option String
  deriving DecidableEq, Repr

namespace ColumnClauses

def fullType (s : ColumnClauses) : String := s.typeToken ++ s.length.getD ""

/-- The definition of a column, given its quoted name. -/
def render (s : ColumnClauses) (quotedName : String) : String :=
  " ".intercalate ([quotedName, s.fullType] ++ s.notNull.toList ++ s.autoNumber.toList ++
    s.default?.toList ++ s.comment.toList)

end ColumnClauses

namespace Dialect

/-- The name by which a dialect knows a type, given in upper case. -/
def typeName (d : Dialect) (isKey : Bool) (upper : String) : String :=
  match d with
  | mysql | doris => upper
  | postgresql =>
    if isKey && (TypeCategory.ofType upper).isInteger then "SERIAL"
    else match upper with
      | "DATETIME" => "TIMESTAMP"
      | "TINYINT" => "SMALLINT"
      | other => other
  | oracle =>
    match upper with
    | "VARCHAR" => "VARCHAR2"
    | "DATETIME" => "DATE"
    | "BIGINT" => "NUMBER(19)"
    | "INT" => "NUMBER(10)"
    | other => other
  | sqlserver =>
    match upper with
    | "DATETIME" => "DATETIME2"
    | other => other

/-- The types that some dialect knows by another name, with this name. -/
def otherTypeNames : List (String × String) :=
  [("DATETIME", "TIMESTAMP"), ("TINYINT", "SMALLINT"), ("VARCHAR", "VARCHAR2"),
    ("DATETIME", "DATE"), ("BIGINT", "NUMBER(19)"), ("INT", "NUMBER(10)"),
    ("DATETIME", "DATETIME2")]

theorem typeName_eq_serial {upper : String} (h : (TypeCategory.ofType upper).isInteger = true) :
    postgresql.typeName true upper = "SERIAL" := by
  simp only [typeName, h, Bool.and_self, if_true]

/-- A dialect numbers a key by a sequence, knows a type by another name, or leaves it as it is. -/
theorem typeName_cases (d : Dialect) (isKey : Bool) (upper : String) :
    (d = postgresql ∧ isKey = true ∧ (TypeCategory.ofType upper).isInteger = true ∧
      d.typeName isKey upper = "SERIAL") ∨
    (upper, d.typeName isKey upper) ∈ otherTypeNames ∨
    d.typeName isKey upper = upper := by
  cases d with
  | mysql | doris => exact .inr (.inr rfl)
  | postgresql =>
    by_cases hkey : isKey = true ∧ (TypeCategory.ofType upper).isInteger = true
    · obtain ⟨rfl, hinteger⟩ := hkey
      exact .inl ⟨rfl, rfl, hinteger, typeName_eq_serial hinteger⟩
    · unfold typeName
      simp only [Bool.and_eq_true, if_neg hkey]
      split
      case h_3 => exact .inr (.inr rfl)
      all_goals exact .inr (.inl (by decide))
  | oracle =>
    unfold typeName
    simp only
    split
    case h_5 => exact .inr (.inr rfl)
    all_goals exact .inr (.inl (by decide))
  | sqlserver =>
    unfold typeName
    simp only
    split
    case h_2 => exact .inr (.inr rfl)
    all_goals exact .inr (.inl (by decide))

/-- Can a type of a dialect carry a length? -/
def acceptsLength (d : Dialect) (typeToken : String) : Bool :=
  match d with
  | postgresql => typeToken == "VARCHAR"
  | _ => true

/-- How a dialect marks a key column that it numbers itself. -/
def autoNumberClause : Dialect → Option String
  | mysql => some "AUTO_INCREMENT"
  | sqlserver => some "IDENTITY(1,1)"
  | postgresql | doris | oracle => none

/-- The expression of a dialect for a default value. -/
def defaultExpression (d : Dialect) (value : String) : String :=
  match d with
  | oracle =>
    if Text.asciiUpper (Text.strip value) = "CURRENT_TIMESTAMP" then "SYSDATE" else value
  | _ => value

end Dialect

namespace Column

/-- The type of a column in a dialect, without its length. -/
def typeToken (d : Dialect) (c : Column) : String :=
  d.typeName c.isKey (Text.asciiUpper (Text.strip c.typeName))

/-- The length of a column's type in a dialect. Some types take none, and a type that comes with
arguments has it already. -/
def lengthClause (d : Dialect) (c : Column) : Option String :=
  let token := c.typeToken d
  if isLengthExempt c.typeKey || isLengthExempt (Text.asciiLower token) ||
      token.toList.contains '(' || !d.acceptsLength token then none
  else TableSql.lengthClause c.length c.scale

theorem lengthText_lengthClause (d : Dialect) (c : Column) :
    LengthText ((c.lengthClause d).getD "") := by
  unfold lengthClause TableSql.lengthClause
  simp only
  split
  · exact .absent
  · cases positive? c.length with
    | none => exact .absent
    | some n =>
      cases positive? c.scale with
      | none => exact .length n.toNat
      | some m => exact .precision n.toNat m.toNat

/-- The parts of a column's definition in a dialect. -/
def clauses (d : Dialect) (c : Column) : ColumnClauses :=
  let token := c.typeToken d
  let serial := isSerial token
  { typeToken := token
    length := c.lengthClause d
    notNull := if !c.nullable && !serial then some "NOT NULL" else none
    autoNumber := if c.isKey then d.autoNumberClause else none
    default? := ((nonEmpty? c.default?).filter fun _ => !serial).map fun value =>
      "DEFAULT " ++ d.defaultExpression value
    comment := if d.hasInlineComments then
        c.commentText.map fun text => "COMMENT " ++ quoteText text
      else none }

theorem fullType_clauses (d : Dialect) (c : Column) :
    (c.clauses d).fullType = c.typeToken d ++ (c.lengthClause d).getD "" := by
  unfold ColumnClauses.fullType clauses
  simp only

/-- The definition of a column in a dialect. -/
def definition (d : Dialect) (c : Column) : String := (c.clauses d).render (quoteName d c.name)

end Column

end TableSql
