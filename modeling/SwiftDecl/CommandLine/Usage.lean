import SwiftDecl.CommandLine.Argument
import SwiftDecl.CommandLine.Number
import SwiftDecl.Text.Plain

/-!
# Help and misuse

The help texts, and what can be wrong with a command line.
-/

namespace SwiftDecl

namespace CommandLine

/-- What help is given about. -/
inductive Topic where
  | program
  | verb (v : Verb)
  /-- The help command itself. -/
  | help
deriving DecidableEq

/-- The lines of a help text. -/
def Topic.lines : Topic → List String
  | program =>
    ["Render Swift declarations from a resgen manifest",
      "",
      "Usage: resgen <COMMAND>",
      "",
      "Commands:",
      "  render      Render every declaration in the manifest as Swift",
      "  used-types  List the types the manifest's declarations depend on",
      "  help        Print this message or the help of the given subcommand(s)",
      "",
      "Options:",
      "  -h, --help     Print help",
      "  -V, --version  Print version"]
  | verb .render =>
    ["Render every declaration in the manifest as Swift",
      "",
      "Usage: resgen render [OPTIONS] <MANIFEST>",
      "",
      "Arguments:",
      "  <MANIFEST>  Manifest file (JSON)",
      "",
      "Options:",
      "      --indent-width <N>  Spaces per indentation level (default: 4)",
      "      --tabs              Indent with tabs",
      "      --blank-lines <N>   Blank lines between declarations (default: 1)",
      "  -h, --help              Print help"]
  | verb .usedTypes =>
    ["List the types the manifest's declarations depend on",
      "",
      "Usage: resgen used-types [OPTIONS] <MANIFEST>",
      "",
      "Arguments:",
      "  <MANIFEST>  Manifest file (JSON)",
      "",
      "Options:",
      "      --unique   Print each type once, in order of first use",
      "      --imports  Print the modules that need an import instead of types",
      "  -h, --help     Print help"]
  | help =>
    ["Print this message or the help of the given subcommand(s)",
      "",
      "Usage: resgen help [COMMAND]...",
      "",
      "Arguments:",
      "  [COMMAND]...  Print help for the subcommand(s)"]

/-- Lines, each ended by a line feed. -/
def printed (lines : List Text) : Text :=
  lines.flatMap (· ++ ['\n'])

/-- The help text about a topic. -/
def Topic.text (t : Topic) : Text :=
  printed (t.lines.map String.toList)

/-- The line that tells the version. -/
def versionText : Text :=
  printed ["resgen 0.1.0".toList]

/-- What is wrong with a command line. -/
inductive Misuse where
  | noCommand
  | unknownCommand (word : Text)
  | unexpected (word : Text)
  | missingManifest
  | exclusive (a b : Argument)
  | repeated (a : Argument)
  | valueMissing (a : Argument)
  /-- A value after the equals sign of an option that takes none. -/
  | valueUnexpected (value shown : Text)
  | invalidValue (value : Text) (a : Argument) (why : NumberFault)
deriving DecidableEq

/-- A word between single quotes, without the control sequences in it. -/
def inQuotes (t : Text) : Text :=
  '\'' :: t.withoutSequences ++ ['\'']

/-- The first line of what is said about a misuse. Without a command, that is the help. -/
def Misuse.message : Misuse → Text
  | noCommand => "Render Swift declarations from a resgen manifest".toList
  | unknownCommand word => "error: unrecognized subcommand ".toList ++ inQuotes word
  | unexpected word => "error: unexpected argument ".toList ++ inQuotes word ++ " found".toList
  | missingManifest => "error: the following required arguments were not provided:".toList
  | exclusive a b =>
    "error: the argument ".toList ++ inQuotes a.shown ++ " cannot be used with ".toList
      ++ inQuotes b.shown
  | repeated a =>
    "error: the argument ".toList ++ inQuotes a.shown ++ " cannot be used multiple times".toList
  | valueMissing a =>
    "error: a value is required for ".toList ++ inQuotes a.shown ++ " but none was supplied".toList
  | valueUnexpected value shown =>
    "error: unexpected value ".toList ++ inQuotes value ++ " for ".toList ++ inQuotes shown
      ++ " found; no more were expected".toList
  | invalidValue value a why =>
    "error: invalid value ".toList ++ inQuotes value ++ " for ".toList ++ inQuotes a.shown
      ++ ": ".toList ++ why.message

end CommandLine

end SwiftDecl
