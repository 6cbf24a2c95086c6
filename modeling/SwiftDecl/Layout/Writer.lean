import SwiftDecl.Text.Basic

/-!
# Writing with indentation

A writer gathers text and knows the level of indentation. Whatever is first written on a line is
preceded by the indentation of the level in force at that moment, so a line on which nothing is
written stays empty.
-/

namespace SwiftDecl

namespace Layout

/-- Text being written. -/
structure Writer where
  /-- The unit of indentation. -/
  unit : Text
  /-- What has been written, the last character first. -/
  reversed : Text
  level : Nat
  /-- Whether nothing has been written on the current line. -/
  atLineStart : Bool

namespace Writer

/-- A writer that has written nothing. -/
def start (unit : Text) : Writer :=
  ⟨unit, [], 0, true⟩

/-- The text written so far. -/
def text (w : Writer) : Text :=
  w.reversed.reverse

/-- One level further in. -/
def indent (w : Writer) : Writer :=
  { w with level := w.level + 1 }

/-- One level further out, but not beyond the outermost. -/
def dedent (w : Writer) : Writer :=
  { w with level := w.level - 1 }

/-- The indentation of the level in force. -/
def indentation (w : Writer) : Text :=
  (List.replicate w.level w.unit).flatten

/-- Writes a text on the current line. -/
def write (t : Text) (w : Writer) : Writer :=
  if t.isEmpty then w
  else
    let put := if w.atLineStart then w.indentation ++ t else t
    { w with reversed := put.reverse ++ w.reversed, atLineStart := false }

/-- Ends the current line. -/
def newline (w : Writer) : Writer :=
  { w with reversed := '\n' :: w.reversed, atLineStart := true }

/-- Writes a text and ends the line. -/
def writeLine (t : Text) (w : Writer) : Writer :=
  (w.write t).newline

/-- Ends a number of lines. -/
def blankLines : Nat → Writer → Writer
  | 0, w => w
  | n + 1, w => blankLines n w.newline

/-- Writes lines, each on one of its own, and leaves the last one open. -/
def writeLines : List Text → Writer → Writer
  | [], w => w
  | [line], w => w.write line
  | line :: more, w => writeLines more (w.writeLine line)

/-- Writes the lines of a block. A line of white space is left empty. -/
def writeBlock (block : Text) (w : Writer) : Writer :=
  w.writeLines (block.lines.map Text.withoutBlank)

/-- A step of writing. -/
inductive Step where
  | indent
  | dedent
  | write (t : Text)
  | writeLine (t : Text)
  | writeBlock (block : Text)
  | newline
  | blankLines (count : Nat)

/-- The writer after a step. -/
def after (w : Writer) : Step → Writer
  | .indent => w.indent
  | .dedent => w.dedent
  | .write t => w.write t
  | .writeLine t => w.writeLine t
  | .writeBlock block => w.writeBlock block
  | .newline => w.newline
  | .blankLines count => w.blankLines count

end Writer

end Layout

end SwiftDecl
