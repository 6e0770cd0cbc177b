import TableSql.Config
import TableSql.Dml

/-!
# Failures

* `Cause`, `Failure` — why a command gives no result, and what it was doing.
* `Failure.message` — the wording: what was being done, from the outside in, and then the cause.

A text that is not well formed has no wording of its own.
-/

set_option autoImplicit false

namespace TableSql

inductive Cause where
  | refused (error : TableError)
  | config (fault : ConfigFault)
  | unknownTemplate (error : UnknownTemplate)
  | unknownDialect (word : String)
  | unknownKind (word : String)
  | missingFile (path : String)
  | unreadableFile (path reason : String)
  | malformed
  | noTarget
  | noTableName (path : String)
  deriving DecidableEq, Repr

def Cause.message? : Cause → Option String
  | refused error => some error.message
  | config fault => some fault.message
  | unknownTemplate error => some error.message
  | unknownDialect word =>
    some (s!"Unsupported database dialect: {word}. Please specify one of: " ++
      "mysql, postgresql, doris, oracle, sqlserver.")
  | unknownKind word =>
    some s!"Unknown DML kind '{word}'. Expected one of: select, insert, update, delete"
  | missingFile path => some s!"File not found: {path}"
  | unreadableFile path reason => some s!"Failed to read file: {path} (cause: {reason})"
  | malformed => none
  | noTarget => some "Cannot determine the conversion target. Please pass --to or --ddl."
  | noTableName path => some s!"Cannot derive a table name from {path}. Please pass --table."

/-- A cause and what was being done, the outermost first. -/
structure Failure where
  contexts : List String := []
  cause : Cause
  deriving DecidableEq, Repr

namespace Failure

def message (f : Failure) : String := ": ".intercalate (f.contexts ++ f.cause.message?.toList)

/-- A failure while something was being done. -/
def within (context : String) (f : Failure) : Failure := { f with contexts := context :: f.contexts }

/-- A refusal while something was being done. -/
def ofRefusal (context : String) (error : TableError) : Failure := ⟨[context], .refused error⟩

end Failure

/-- The dialect that a user's word means. -/
def Dialect.parse (text : String) : Except Failure Dialect :=
  match parse? text with
  | some d => .ok d
  | none => .error { cause := .unknownDialect (normalized text) }

/-- The kind of statement that a user's word means. -/
def DmlKind.parse (text : String) : Except Failure DmlKind :=
  match parse? text with
  | some kind => .ok kind
  | none => .error { cause := .unknownKind (normalized text) }

end TableSql
