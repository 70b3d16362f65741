import GatewayMigration.CommandLine.Report

/-! The program. -/

open GatewayMigration

/-- The bytes of a file, or why it cannot be read. -/
def readInput (path : String) : IO (Except FileFault ByteArray) := do
  try
    return .ok (← IO.FS.readBinFile path)
  catch
    | .noFileOrDirectory .. => return .error .notFound
    | .inappropriateType .. => return .error .isDirectory
    | _ => return .error .inaccessible

/-- The manifest that the arguments name. -/
def inputOf (arguments : List String) : IO (Except FileFault ByteArray) :=
  match Command.ofArguments? arguments with
  | some (.print { inputFile := some path, .. }) => readInput path
  | _ => return .error .notFound

def main (arguments : List String) : IO UInt32 := do
  let input ← inputOf arguments
  let report := Report.ofArguments (fun _ => input) arguments
  (← IO.getStderr).putStr report.errorOutput
  (← IO.getStdout).putStr report.output
  return report.code.toUInt32
