import SwiftDecl.Text.Basic

/-!
# Layout settings

What may be chosen about the rendered text: the unit of indentation and the number of blank lines
between declarations.
-/

namespace SwiftDecl

namespace Layout

/-- The settings of a layout. -/
structure Config where
  /-- Written once per level. -/
  indentUnit : Text
  blankLines : Nat
deriving DecidableEq

namespace Config

/-- Four spaces per level and one blank line. -/
def standard : Config :=
  ⟨"    ".toList, 1⟩

/-- A choice of a setting. -/
inductive Choice where
  /-- A unit of indentation as it is. -/
  | unit (text : Text)
  /-- So many spaces per level. -/
  | width (spaces : Nat)
  /-- A tab per level. -/
  | tabs
  /-- So many blank lines between declarations. -/
  | blankLines (count : Nat)

/-- The settings after a choice. -/
def choosing (c : Config) : Choice → Config
  | .unit text => { c with indentUnit := text }
  | .width spaces => { c with indentUnit := List.replicate spaces ' ' }
  | .tabs => { c with indentUnit := ['\t'] }
  | .blankLines count => { c with blankLines := count }

/-- The standard settings after a number of choices. -/
def ofChoices (choices : List Choice) : Config :=
  choices.foldl choosing standard

end Config

end Layout

end SwiftDecl
