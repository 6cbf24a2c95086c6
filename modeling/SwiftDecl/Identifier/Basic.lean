import SwiftDecl.Identifier.Keyword
import SwiftDecl.Unicode.Alphanumeric
import SwiftDecl.Unicode.LetterCase
import SwiftDecl.Unicode.CaseMapping

/-!
# Identifiers

Names come from files, catalogues and users, so they may hold spaces, dots and dashes or start with
a digit. A name is cut into its pieces, the longest stretches of letters, digits and underscores;
every piece gets a capital first and the pieces are joined. A value identifier then has its leading
word in small letters, and a leading digit is shielded by an underscore. The stored text is bare:
backticks around a reserved word are put there when the identifier is displayed.
-/

namespace SwiftDecl

/-- Whether a character may stand in an identifier. -/
def isIdentifierChar (c : Char) : Bool :=
  Unicode.isAlphanumeric c || c == '_'

/-- The longest stretches of identifier characters in a raw name, in order. -/
def pieces : Text → List Text
  | [] => []
  | c :: rest =>
    if isIdentifierChar c then
      match rest.head?.any isIdentifierChar, pieces rest with
      | true, piece :: more => (c :: piece) :: more
      | _, more => [c] :: more
    else pieces rest

/-- A piece with its first character upper-cased. -/
def capitalized : Text → Text
  | [] => []
  | c :: rest => Unicode.toUppercase c ++ rest

/-- How many characters of the leading word are to be lower-cased: the leading run of capitals,
except that a run of two or more followed by a small letter keeps its last capital, which starts the
next word. -/
def leadingCapitals (t : Text) : Nat :=
  let run := (t.takeWhile Unicode.isUppercase).length
  if 1 < run && t[run]?.any Unicode.isLowercase then run - 1 else run

/-- A text with its leading word in small letters. -/
def leadingLowercased (t : Text) : Text :=
  (t.take (leadingCapitals t)).flatMap Unicode.toLowercase ++ t.drop (leadingCapitals t)

/-- A text with an underscore in front if it starts with an ASCII digit. -/
def digitShielded (t : Text) : Text :=
  if t.head?.any Char.isDigit then '_' :: t else t

/-- A normalized name, without the backticks a reserved word is displayed in. -/
structure Identifier where
  name : Text
deriving DecidableEq

namespace Identifier

/-- The identifier of a type: every piece starts with a capital. -/
def ofTypeName (raw : Text) : Identifier :=
  ⟨digitShielded ((pieces raw).flatMap capitalized)⟩

/-- The identifier of a value: as for a type, with the leading word in small letters. -/
def ofName (raw : Text) : Identifier :=
  ⟨digitShielded (leadingLowercased ((pieces raw).flatMap capitalized))⟩

/-- Whether the raw name held no identifier character at all. -/
def isEmpty (i : Identifier) : Bool :=
  i.name.isEmpty

/-- Whether the identifier is a reserved word and needs backticks. -/
def isEscaped (i : Identifier) : Bool :=
  isKeyword i.name

/-- The identifier as it stands in Swift text. -/
def display (i : Identifier) : Text :=
  if i.isEscaped then i.name.inBackticks else i.name

end Identifier

end SwiftDecl
