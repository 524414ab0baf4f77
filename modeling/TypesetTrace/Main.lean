import TypesetTrace.Alignment.Transcript

/-! The command line: surveys the source file that is named and prints the report. -/
namespace TypesetTrace

private def stored? (path : Text) : IO (Option Stored) := do
  try
    let content ← IO.FS.readBinFile (String.ofList path)
    return some (.bytes content.toList)
  catch
    | .permissionDenied .. => return some .denied
    | _ => return none

/-- The source file and the synchronisation data that may lie beside it. -/
private def filesFor (working : Path.WorkingDirectory) (source : Text) : IO Files := do
  let mut files : Files := { working }
  for path in source :: Navigation.candidates Navigation.defaultSuffixes source do
    if let some content ← stored? path then
      files := files.write path content
  return files

private def explain : Alignment.Failure → String
  | .cannotOpen e => e.message
  | .noLineMap status => s!"the line map was refused with status {status}"
  | .emptyAnswer => "a line was answered without content"
  | .fault f => f.message

def runCommand (arguments : List String) : IO UInt32 := do
  let current := (← IO.currentDir).toString.toList
  let working : Path.WorkingDirectory :=
    { path := Path.join ['/'] current, isAbsolute_path := Path.isAbsolute_join rfl current }
  let paths := arguments.map String.toList
  let files ← match paths with
    | [] => pure { working }
    | path :: _ => filesFor working (Path.absolute working path)
  let run := Alignment.run {} files paths
  IO.print (String.ofList run.transcript)
  match run.ending with
  | .finished => return 0
  | .exit code => return UInt32.ofNat code
  | .failed failure =>
    IO.eprintln (explain failure)
    return 1

end TypesetTrace

def main (arguments : List String) : IO UInt32 := TypesetTrace.runCommand arguments
