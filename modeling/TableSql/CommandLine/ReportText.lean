import TableSql.Validation

/-!
# Reports for a reader

* `Colour.paint` — a text in the colour of a terminal.
* `Report.text` — what a check finds, with counts and a verdict.
-/

set_option autoImplicit false

namespace TableSql

inductive Colour where
  | green
  | yellow
  | red
  deriving DecidableEq, Repr

namespace Colour

/-- What turns a colour on. -/
def start : Colour → String
  | green => "\x1b[32m"
  | yellow => "\x1b[33m"
  | red => "\x1b[31m"

/-- What turns every colour off. -/
def reset : String := "\x1b[0m"

/-- A text in a colour, if colours are wanted. Where the text turns colours off itself, the colour
is turned on again. -/
def paint (c : Colour) (coloured : Bool) (text : String) : String :=
  if coloured then c.start ++ Text.replaceAll reset (reset ++ c.start) text ++ reset else text

end Colour

namespace Report

/-- The section of the defects, which are numbered. -/
def defectSection (r : Report) : String :=
  if r.defects.isEmpty then ""
  else
    s!"❌ {r.defects.length} error(s) found:\n\n" ++
      String.join (r.defects.mapIdx fun i d => s!"{i + 1}. {d.message}\n") ++ "\n"

/-- The section of the doubts. -/
def warningSection (coloured : Bool) (r : Report) : String :=
  if r.warnings.isEmpty then ""
  else
    Colour.yellow.paint coloured "⚠" ++ s!" {r.warnings.length} warning(s):\n\n" ++
      String.join (r.warnings.map fun w => "  " ++ Colour.yellow.paint coloured w.line ++ "\n") ++
      "\n"

/-- The section of the counts. -/
def statistics (d : Dialect) (t : Table) : String :=
  "=== Validation Statistics ===\n" ++ s!"Table: {t.name}\nDialect: {d.name}\n" ++
    s!"Columns: {t.columns.length}\nPrimary key columns: {t.keyColumns.length}\n"

def verdict (coloured : Bool) (r : Report) : String :=
  if r.isValid then Colour.green.paint coloured "✓ Validation complete. No errors found."
  else
    Colour.red.paint coloured s!"✗ Validation complete. {r.defects.length} error(s) found."

/-- What a check of a table for a dialect finds, for a reader. -/
def text (coloured : Bool) (d : Dialect) (t : Table) (r : Report) : String :=
  "=== Table Validation Results ===\n\n" ++ r.defectSection ++ r.warningSection coloured ++
    statistics d t ++ "\n=== Result ===\n" ++ r.verdict coloured ++ "\n"

end Report

end TableSql
