import SwiftDecl.Text.Basic

/-!
# Places in a document

A reader knows where it is by what is left to read. That remainder, and a number of bytes beyond it,
name a place of the document; the line and column follow once the whole document is at hand. Columns
count the bytes of UTF-8, so a place may lie inside a character.
-/

namespace SwiftDecl

namespace Json

/-- A line, from one on, and the number of bytes between its start and the position. -/
structure Position where
  line : Nat
  column : Nat
deriving DecidableEq

namespace Position

/-- Where every document starts. -/
def start : Position :=
  ⟨1, 0⟩

/-- The position after a character that stands here. -/
def after (p : Position) (c : Char) : Position :=
  if c = '\n' then ⟨p.line + 1, 0⟩ else ⟨p.line, p.column + c.utf8Size⟩

/-- The position a number of bytes on in a text that starts here, or at its end if it is shorter. -/
def onward (p : Position) : Text → Nat → Position
  | [], _ => p
  | c :: rest, bytes =>
    if bytes < c.utf8Size then ⟨p.line, p.column + bytes⟩
    else (p.after c).onward rest (bytes - c.utf8Size)

end Position

/-- **A place of a document**: so many bytes after the point where `rest` is left to read. -/
structure Place where
  rest : Text
  bytes : Nat
deriving DecidableEq

namespace Place

/-- The place right where `rest` is left to read. -/
def before (rest : Text) : Place :=
  ⟨rest, 0⟩

/-- The place one byte on, or the end of the document if nothing is left. -/
def within (rest : Text) : Place :=
  ⟨rest, 1⟩

/-- The line and column of a place of the document. -/
def position (document : Text) (p : Place) : Position :=
  ((document.take (document.length - p.rest.length)).foldl Position.after .start).onward
    p.rest p.bytes

end Place

end Json

end SwiftDecl
