import SwiftDecl.CommandLine.Invocation
import SwiftDecl.Layout.Render
import SwiftDecl.Manifest.Loading

/-!
# What a command line comes to

A command prints all of its output or none: only when every declaration of the manifest stands is
there anything to print. Everything else is reported on the error stream.
-/

namespace SwiftDecl

namespace CommandLine

/-- What is printed on the two streams, and the exit code. -/
structure Outcome where
  exitCode : Nat
  output : Text
  errors : Text
deriving DecidableEq

/-- The end of a run that has printed what it should. -/
def Outcome.success (output : Text) : Outcome :=
  ⟨0, output, []⟩

/-- The exit code of a command that has failed. -/
def failureCode : Nat :=
  1

/-- The exit code of a command line that cannot be read. -/
def misuseCode : Nat :=
  2

/-- The report of an error: its code, its message, its cause, and help if there is some. -/
def report (e : Manifest.LoadError) : Text :=
  e.code ++ " × ".toList ++ e.message ++ " ╰─▶ ".toList ++ e.cause
    ++ match e.help? with
      | some help => " help: ".toList ++ help
      | none => []

/-- The path of the manifest of a command. -/
def Command.path : Command → Text
  | render path _ => path
  | usedTypes path _ => path

/-- What a command prints about declarations. A rendering is ended by a line feed, unless there is
nothing to end. -/
def Command.output (s : DeclarationSet) : Command → Text
  | render _ config =>
    let text := Layout.renderDeclarations config s
    if text.isEmpty then [] else text ++ ['\n']
  | usedTypes _ listing => printed (listing.lines s)

/-- What a command comes to, given what its path leads to. -/
def Command.outcome (c : Command) (content : Except Manifest.Unreadable Text) : Outcome :=
  match Manifest.load c.path content with
  | .ok s => .success (c.output s)
  | .error e => ⟨failureCode, [], report e⟩

/-- What a command line comes to, given what paths lead to. -/
def outcome (files : Text → Except Manifest.Unreadable Text) (words : List Text) : Outcome :=
  match read words with
  | .error e => ⟨misuseCode, [], e.message⟩
  | .ok .version => .success versionText
  | .ok (.help topic) => .success topic.text
  | .ok (.run c) => c.outcome (files c.path)

end CommandLine

end SwiftDecl
