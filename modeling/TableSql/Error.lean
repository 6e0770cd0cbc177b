/-!
# Refusals

* `TableError` — why a table cannot be read from a grid or written as a statement.
* `TableError.message` — its wording.
* `Result.bind_eq_ok`, `Result.map_eq_ok`, `Result.mapError_eq_ok` — when steps that may be refused
  succeed: one behind another, with a value made of a step's value, with other words for a refusal.
-/

set_option autoImplicit false

namespace TableSql

/-- Why a table cannot be read from a grid or written as a statement. -/
inductive TableError where
  /-- A template names a column or row of a grid that cannot exist. -/
  | invalidAddress (address reason : String)
  /-- A statement is wanted for a table without columns. -/
  | noColumns (table : String)
  /-- A mapping takes its values from a header that is not there. -/
  | unknownHeader (column header : String)
  /-- A dialect has no such statement. -/
  | unsupported (dialect feature : String)
  deriving DecidableEq, Repr

namespace TableError

def message : TableError → String
  | invalidAddress address reason => s!"Invalid column address '{address}': {reason}"
  | noColumns table => s!"Table '{table}' has no columns"
  | unknownHeader column header =>
    s!"Column '{column}' is mapped to unknown source header '{header}'"
  | unsupported dialect feature => s!"Dialect '{dialect}' does not support {feature}"

def isInvalidAddress : TableError → Bool
  | invalidAddress .. => true
  | _ => false

def isNoColumns : TableError → Bool
  | noColumns _ => true
  | _ => false

def isUnknownHeader : TableError → Bool
  | unknownHeader .. => true
  | _ => false

def isUnsupported : TableError → Bool
  | unsupported .. => true
  | _ => false

end TableError

namespace Result

variable {ε ε' α β : Type}

theorem bind_eq_ok {x : Except ε α} {f : α → Except ε β} {b : β} :
    x >>= f = .ok b ↔ ∃ a, x = .ok a ∧ f a = .ok b := by
  cases x <;> simp [bind, Except.bind]

theorem map_eq_ok {x : Except ε α} {f : α → β} {b : β} :
    x.map f = .ok b ↔ ∃ a, x = .ok a ∧ f a = b := by
  cases x <;> simp [Except.map]

theorem mapError_eq_ok {x : Except ε α} {f : ε → ε'} {a : α} :
    x.mapError f = .ok a ↔ x = .ok a := by
  cases x with
  | error e => exact ⟨nofun, nofun⟩
  | ok b =>
    constructor
    · intro h
      cases h
      rfl
    · intro h
      cases h
      rfl

end Result

end TableSql
