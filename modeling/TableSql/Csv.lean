/-!
# CSV

* `Csv.parse` — the records of a CSV text, each a list of fields.

Records end at line breaks, and empty lines are no records. A field that starts with a quote goes on
to the next single quote; what follows up to the next comma or line break is taken as it is.
-/

set_option autoImplicit false

namespace TableSql.Csv

inductive State where
  /-- The start of a record. -/
  | recordStart
  /-- The start of a field after a comma. -/
  | fieldStart
  /-- A field without quotes, or what follows the closing quote. -/
  | bare
  /-- A field between quotes. -/
  | quoted
  /-- A quote inside quotes, which closes the field unless another one follows. -/
  | quoteInQuoted
  deriving DecidableEq

/-- The records read so far and the one that is open, each with the last part first. -/
structure Reader where
  records : List (List String) := []
  fields : List String := []
  field : List Char := []
  state : State := .recordStart

namespace Reader

/-- Adds a character to the open field. -/
def add (r : Reader) (c : Char) (state : State) : Reader := { r with field := c :: r.field, state }

def endField (r : Reader) (state : State) : Reader :=
  { r with fields := String.ofList r.field.reverse :: r.fields, field := [], state }

def endRecord (r : Reader) : Reader :=
  let r := r.endField .recordStart
  { r with records := r.fields.reverse :: r.records, fields := [] }

/-- A character outside quotes. -/
def stepBare (r : Reader) (c : Char) : Reader :=
  if c = ',' then r.endField .fieldStart
  else if c = '\n' ∨ c = '\r' then r.endRecord
  else r.add c .bare

def step (r : Reader) (c : Char) : Reader :=
  match r.state with
  | .recordStart =>
    if c = '\n' ∨ c = '\r' then r
    else if c = '"' then { r with state := .quoted }
    else r.stepBare c
  | .fieldStart => if c = '"' then { r with state := .quoted } else r.stepBare c
  | .bare => r.stepBare c
  | .quoted => if c = '"' then { r with state := .quoteInQuoted } else r.add c .quoted
  | .quoteInQuoted => if c = '"' then r.add c .quoted else r.stepBare c

/-- The records at the end of the text. -/
def finish (r : Reader) : List (List String) :=
  let r := if r.state = .recordStart then r else r.endRecord
  r.records.reverse

end Reader

/-- The records of a CSV text. A byte order mark at its start does not count. -/
def parse (text : String) : List (List String) :=
  let cs :=
    match text.toList with
    | '\ufeff' :: cs => cs
    | cs => cs
  (cs.foldl Reader.step {}).finish

end TableSql.Csv
