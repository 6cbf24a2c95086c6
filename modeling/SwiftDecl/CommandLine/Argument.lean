import SwiftDecl.Dependencies
import SwiftDecl.Layout.Config

/-!
# Commands and their arguments

There are two commands. Each takes a manifest and options of its own; some options take a number,
and some exclude each other.
-/

namespace SwiftDecl

namespace CommandLine

/-- The commands by name. -/
inductive Verb where
  | render | usedTypes
deriving DecidableEq

/-- The word for a command. -/
def Verb.word : Verb → Text
  | render => "render".toList
  | usedTypes => "used-types".toList

/-- The command that a word stands for. -/
def Verb.ofWord? (word : Text) : Option Verb :=
  [Verb.render, .usedTypes].find? (·.word == word)

/-- What a command may be given. -/
inductive Argument where
  | manifest | indentWidth | tabs | blankLines | unique | imports
deriving DecidableEq

namespace Argument

/-- The options of a command. -/
def optionsOf : Verb → List Argument
  | .render => [indentWidth, tabs, blankLines]
  | .usedTypes => [unique, imports]

/-- The name of an option, without the dashes in front. -/
def word : Argument → Text
  | manifest => "manifest".toList
  | indentWidth => "indent-width".toList
  | tabs => "tabs".toList
  | blankLines => "blank-lines".toList
  | unique => "unique".toList
  | imports => "imports".toList

/-- Whether a value goes with the argument. -/
def takesValue : Argument → Bool
  | manifest | indentWidth | blankLines => true
  | tabs | unique | imports => false

/-- An argument as messages show it. -/
def shown : Argument → Text
  | manifest => "<MANIFEST>".toList
  | a => "--".toList ++ a.word ++ if a.takesValue then " <N>".toList else []

/-- Whether two arguments exclude each other. -/
def excludes (a b : Argument) : Bool :=
  [(indentWidth, tabs), (tabs, indentWidth), (unique, imports), (imports, unique)].contains (a, b)

end Argument

/-- A command with everything it needs. -/
inductive Command where
  | render (path : Text) (config : Layout.Config)
  | usedTypes (path : Text) (listing : Listing)

end CommandLine

end SwiftDecl
