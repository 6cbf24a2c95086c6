import SwiftDecl.DeclarationSet
import SwiftDecl.Layout.Config
import SwiftDecl.Layout.Writer
import SwiftDecl.TypeRef.Spelling

/-!
# Rendering declarations

A function is rendered as its documentation, its signature and its indented body:

```text
/// comment lines, one per line
static func name<Generics>(label local: Type = default, ...) throws -> Return {
    body
}
```

Every function renders, and a set of declarations is the functions with blank lines between them.
-/

namespace SwiftDecl

/-- The label, the local name if there is one, the type, and the default value if there is one. -/
def Parameter.render (p : Parameter) : Text :=
  let names := match p.localName with
    | some localName => p.identifier.display ++ ' ' :: localName.display
    | none => p.identifier.display
  let definition := names ++ ": ".toList ++ p.type.spelling
  match p.defaultValue with
  | some value => definition ++ " = ".toList ++ value
  | none => definition

/-- The clause between the name of a function and its parameters. -/
def Function.genericsClause (f : Function) : Text :=
  match f.generics with
  | some generics => '<' :: generics ++ ['>']
  | none => []

/-- The arrow and the return type, which are left out for `Void`. -/
def Function.returnClause (f : Function) : Text :=
  if f.returns.isVoid then [] else " -> ".toList ++ f.returns.spelling

/-- The declaration line of a function, without the brace that opens its body. -/
def Function.signature (f : Function) : Text :=
  (if f.isStatic then "static ".toList else []) ++ "func ".toList ++ f.name.display
    ++ f.genericsClause
    ++ '(' :: Text.joined ", ".toList (f.params.map Parameter.render) ++ [')']
    ++ (if f.throws then " throws".toList else []) ++ f.returnClause

/-- The lines of a comment. The empty comment is one empty line. -/
def commentLines (comment : Text) : List Text :=
  if comment.isEmpty then [[]] else comment.lines

/-- The mark of a documentation line. -/
def documentationMark : Text :=
  "///".toList

/-- A line of a comment as a documentation line. -/
def documentationLine (line : Text) : Text :=
  if line.isBlank then documentationMark else documentationMark ++ ' ' :: line

namespace Layout

/-- Writes the documentation of a function. -/
def writeDocumentation (f : Function) (w : Writer) : Writer :=
  (f.comments.flatMap commentLines).foldl (fun w line => w.writeLine (documentationLine line)) w

/-- Writes the body of a function on lines of its own, unless it is blank. -/
def writeBody (f : Function) (w : Writer) : Writer :=
  if f.body.isBlank then w else (w.indent.writeBlock f.body).dedent.newline

/-- The text of a function. -/
def renderFunction (config : Config) (f : Function) : Text :=
  let opened := ((writeDocumentation f (.start config.indentUnit)).write f.signature).writeLine
    " \x7b".toList
  ((writeBody f opened).write "\x7d".toList).text

/-- Writes a function after another one, whose last line is still open: ends that line, and leaves
the blank lines of the layout. -/
def writeNext (config : Config) (w : Writer) (f : Function) : Writer :=
  (w.newline.blankLines config.blankLines).writeBlock (renderFunction config f)

/-- The text of a set of declarations. -/
def renderDeclarations (config : Config) (s : DeclarationSet) : Text :=
  match s.functions with
  | [] => []
  | f :: more =>
    (more.foldl (writeNext config)
      ((Writer.start config.indentUnit).writeBlock (renderFunction config f))).text

end Layout

end SwiftDecl
