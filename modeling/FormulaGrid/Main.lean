import FormulaGrid.Console.Run

/-!
Contract: the program. It reads its arguments and what the command reads, runs
the command, and prints the reply.
-/

namespace FormulaGrid.Console

/-- What the program says of itself. -/
def usage : String :=
  "usage: formula-grid [-h] [-v] command ...\n\n" ++
  "Write data as verified formulas, and read it back.\n\n" ++
  "commands:\n" ++
  "  encode text       write a text as a grid of expressions\n" ++
  "  decode [file]     verify and read a grid (standard input by default)\n" ++
  "  evaluate formula  evaluate one formula\n" ++
  "  verify formula n  check a formula against a number\n" ++
  "  generate number   list different notations of a number\n" ++
  "  identity name     derive the expressions of a name\n" ++
  "  catalog           list the predefined expressions\n"

/-- Read the file at a path. -/
def readPath (path : String) : IO (Except PathFault String) := do
  try
    return .ok (← IO.FS.readFile path)
  catch failure =>
    match failure with
    | .noFileOrDirectory .. => return .error (.missing path)
    | .inappropriateType .. => return .error (.fileInTheWay path)
    | _ => return .error (.folderInTheWay path)

/-- Read what a command reads. -/
def readSource : Command.Source → IO (Except PathFault String)
  | .nothing => return .ok ""
  | .standardInput => return .ok (← (← IO.getStdin).readToEnd)
  | .file path => readPath path

end FormulaGrid.Console

open FormulaGrid FormulaGrid.Console in
/-- Run the command that the arguments call for. -/
def main (arguments : List String) : IO UInt32 := do
  match Command.ofArguments arguments with
  | .error .help =>
      IO.print usage
      return 0
  | .error .misuse =>
      IO.eprint usage
      return 2
  | .ok command =>
      let source ← readSource command.source
      match command.run Elementary.native source with
      | .ok reply =>
          IO.print reply.output
          return reply.status.toUInt32
      | .error fault =>
          IO.eprintln fault.message
          return 1
