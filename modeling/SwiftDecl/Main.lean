import SwiftDecl.CommandLine.Outcome

/-!
# The program

Reads the file that a command names, prints what the command comes to, and exits with its code.
-/

namespace SwiftDecl

/-- What a path of the file system leads to. -/
def readPath (path : Text) : IO (Except Manifest.Unreadable Text) := do
  try
    return Manifest.textOfBytes (← IO.FS.readBinFile (String.ofList path))
  catch e =>
    match e with
    | .noFileOrDirectory .. => return .error .missing
    | .inappropriateType .. => return .error .notDirectory
    | _ => return .error .directory

/-- The content of the file that a command line names, if it names one. -/
def readFileOf (words : List Text) : IO (Except Manifest.Unreadable Text) :=
  match CommandLine.read words with
  | .ok (.run c) => readPath c.path
  | _ => return .error .missing

end SwiftDecl

open SwiftDecl in
/-- Runs the program on its arguments. -/
def main (args : List String) : IO UInt32 := do
  let words := args.map String.toList
  let content ← readFileOf words
  let outcome := CommandLine.outcome (fun _ => content) words
  (← IO.getStdout).putStr (String.ofList outcome.output)
  unless outcome.errors.isEmpty do
    (← IO.getStderr).putStrLn (String.ofList outcome.errors)
  return UInt32.ofNat outcome.exitCode
