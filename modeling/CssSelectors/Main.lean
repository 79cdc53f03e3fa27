import CssSelectors.Cli.Run

namespace CssSelectors.Cli

-- The content of a file, if it can be opened and is text.
def readText (file : String) : IO (Except ReadFailure String) := do
  try
    let bytes ← IO.FS.readBinFile file
    match String.fromUTF8? bytes with
    | some content => return .ok content
    | none => return .error .notText
  catch
    | .noFileOrDirectory .. => return .error .notFound
    | .inappropriateType .. => return .error .isDirectory
    | failure => return .error (.other (toString failure))

end CssSelectors.Cli

-- Reads the file that the arguments name, if they name one, and writes the report of the run.
def main (arguments : List String) : IO UInt32 := do
  let content ← match CssSelectors.Cli.readArguments arguments with
    | .ok (.check { file := some file, .. }) => CssSelectors.Cli.readText file
    | _ => pure (.error .notFound)
  let report := CssSelectors.Cli.run arguments fun _ => content
  IO.print report.output
  IO.eprint report.errors
  return report.exitCode.toUInt32
