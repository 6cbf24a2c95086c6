import SwiftDecl.Unicode.Blank

/-!
# Text

Text is a list of characters, so that every operation on it is a recursion that a proof can follow.
A text has lines and a length in UTF-8, may be blank, and can be joined from parts.
-/

namespace SwiftDecl

/-- A sequence of Unicode characters. -/
abbrev Text := List Char

namespace Text

/-- Whether a text holds nothing but white space; the empty text does. -/
def isBlank (t : Text) : Bool :=
  t.all Unicode.isBlank

/-- **The lines of a text.** A line ends at a line feed, and a carriage return right before that
line feed belongs to the line end. What follows the last line feed is a line only if it is not
empty, and a carriage return anywhere else is part of its line. -/
def lines : Text → List Text
  | [] => []
  | '\n' :: rest => [] :: lines rest
  | '\r' :: '\n' :: rest => [] :: lines rest
  | c :: rest =>
    match lines rest with
    | [] => [[c]]
    | line :: more => (c :: line) :: more

/-- A line with its content dropped if that is only white space. -/
def withoutBlank (line : Text) : Text :=
  if line.isBlank then [] else line

/-- The parts one after the other, with a separator between neighbours. -/
def joined (separator : Text) : List Text → Text
  | [] => []
  | [part] => part
  | part :: more => part ++ separator ++ joined separator more

/-- The number of bytes of a text in UTF-8. -/
def utf8Length : Text → Nat
  | [] => 0
  | c :: rest => c.utf8Size + utf8Length rest

/-- The decimal digits of a number. -/
def ofNat (n : Nat) : Text :=
  Nat.toDigits 10 n

/-- A text between two backticks. -/
def inBackticks (t : Text) : Text :=
  '\x60' :: t ++ ['\x60']

end Text

end SwiftDecl
