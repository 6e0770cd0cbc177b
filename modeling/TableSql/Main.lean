import TableSql.CommandLine.Run

/-!
# The command

`main` reads the files that an invocation names and prints its output.
-/

set_option autoImplicit false

namespace TableSql

def usageText : String :=
  "Usage: " ++ programName ++ " [--config FILE] [--verbose] [--no-color] <COMMAND> [OPTIONS]\n\n" ++
  "Commands:\n" ++ String.join (CommandName.all.map fun command =>
    "  " ++ command.word ++ String.join ((OptionSpec.ofCommand command).map fun o =>
      let option := "--" ++ o.long ++ (if o.takesValue then " " ++ o.long.toUpper else "")
      " " ++ (if o.required then option else "[" ++ option ++ "]")) ++ "\n")

/-- The paths of the files that a request needs. -/
def Request.paths : Request → List String
  | .create table _ | .sample table _ _ | .check table _ => [table]
  | .extract grid _ _ _ => [grid]
  | .importSheet table data mappings _ => [table, data] ++ mappings.toList
  | .detect statement => [statement]
  | .convert table statement _ => table :: statement.toList

/-- The path of the configuration for an invocation. -/
def Invocation.configPath (i : Invocation) (directory : String) : String :=
  Path.fromDirectory directory (i.config.getD configFileName)

def readPath (path : String) : IO FileText := do
  try
    return .ofBytes (← IO.FS.readBinFile path)
  catch
    | .noFileOrDirectory .. => return .missing
    | e => return .unreadable (toString e)

/-- Runs an invocation on the files of the current directory. -/
def Invocation.perform (i : Invocation) : IO UInt32 := do
  let directory := toString (← IO.currentDir)
  let found ← (i.configPath directory :: i.request.paths).mapM fun path => do
    return (path, ← readPath path)
  let file (path : String) : FileText := (found.lookup path).getD .missing
  let colours := (← IO.getEnv "NO_COLOR").isNone && (← (← IO.getStdout).isTty)
  match i.run { directory, file } colours with
  | .ok output =>
    unless output.isEmpty do IO.println output
    return 0
  | .error failure =>
    IO.eprintln ("Error: " ++ failure.message)
    return 1

end TableSql

open TableSql in
/-- Runs the command that the arguments name. -/
def main (arguments : List String) : IO UInt32 := do
  match Invocation.parse arguments with
  | .run invocation => invocation.perform
  | .help =>
    IO.print usageText
    return 0
  | .version command =>
    IO.println (versionLine command)
    return 0
  | .usage =>
    IO.eprint usageText
    return 2
