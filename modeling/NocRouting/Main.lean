import NocRouting.Command
import NocRouting.Search.Engine

/-!
# The program

Reads the file that the command line names, and writes what `Command.run` says.
-/

namespace NocRouting

/-- What is found under the name of a file. -/
def readContent (file : Text) : IO FileContent := do
  try
    let bytes ← IO.FS.readBinFile file.shown
    return .octets (bytes.toList.map (·.toNat))
  catch
    | .permissionDenied .. => return .denied
    | .inappropriateType .. => return .directory
    | _ => return .missing

/-- A note is shown at a level of detail. -/
def LogEntry.isShownAt (n : LogEntry) : LogLevel → Bool
  | .debug => true
  | .info => n.level == .info

end NocRouting

open NocRouting in
/-- Route the problem that the command line names. -/
def main (arguments : List String) : IO UInt32 := do
  let arguments := arguments.map Text.ofString
  let content ←
    match CommandLine.parse arguments with
    | .ok (.run c) => readContent c.problem
    | _ => pure .missing
  let r := Command.run Charset.characters (fun _ => content) Search.engine arguments
  if let some level := r.logLevel then
    for n in r.notes do
      if n.isShownAt level then IO.eprintln (n.level.name ++ ":" ++ n.message)
  IO.print r.ending.output.shown
  IO.eprint r.ending.errors.shown
  return UInt32.ofNat r.ending.code
