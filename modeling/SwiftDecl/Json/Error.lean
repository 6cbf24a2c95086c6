import SwiftDecl.Json.Place
import SwiftDecl.Text.Quoted

/-!
# What can be wrong with a document

A fault of the JSON text itself, or a value of the wrong shape. Each is a cause; the wording stands
in one function. A cause is found at a place of the document, save that a value of a wrong shape may
be refused before anything around it has a place to offer.
-/

namespace SwiftDecl

namespace Json

/-- A breach of the JSON grammar. -/
inductive Fault where
  | valueEnds | stringEnds | listEnds | objectEnds
  | expectedValue | expectedWord | expectedColon | expectedListSeparator | expectedObjectSeparator
  | keyNotString | trailingComma | trailingCharacters | nestingTooDeep
  | invalidNumber | numberOutOfRange
  | controlCharacter | invalidEscape | unpairedSurrogate | escapeEnds
deriving DecidableEq

namespace Fault

/-- The wording of a fault. -/
def message : Fault → Text
  | valueEnds => "EOF while parsing a value".toList
  | stringEnds => "EOF while parsing a string".toList
  | listEnds => "EOF while parsing a list".toList
  | objectEnds => "EOF while parsing an object".toList
  | expectedValue => "expected value".toList
  | expectedWord => "expected ident".toList
  | expectedColon => "expected \x60:\x60".toList
  | expectedListSeparator => "expected \x60,\x60 or \x60]\x60".toList
  | expectedObjectSeparator => "expected \x60,\x60 or \x60\x7d\x60".toList
  | keyNotString => "key must be a string".toList
  | trailingComma => "trailing comma".toList
  | trailingCharacters => "trailing characters".toList
  | nestingTooDeep => "recursion limit exceeded".toList
  | invalidNumber => "invalid number".toList
  | numberOutOfRange => "number out of range".toList
  | controlCharacter =>
    "control character (\\u0000-\\u001F) found while parsing a string".toList
  | invalidEscape => "invalid escape".toList
  | unpairedSurrogate => "lone leading surrogate in hex escape".toList
  | escapeEnds => "unexpected end of hex escape".toList

/-- Whether the text came to its end too early. -/
def isEarlyEnd : Fault → Bool
  | valueEnds | stringEnds | listEnds | objectEnds => true
  | _ => false

end Fault

/-- A value that is JSON but not of the shape its place asks for. -/
inductive Mismatch where
  /-- A value of another type than expected; both are given in words. -/
  | type (found expected : Text)
  /-- A key that the record does not have. -/
  | unknownField (key : Text) (fields : List Text)
  /-- A key that was given before. -/
  | repeatedField (key : Text)
  /-- A required key that was not given. -/
  | missingField (key : Text)
  /-- An array in place of a record that ends before a required field. -/
  | tooShort (length : Nat) (record : Text) (fields : Nat)
  /-- A value that fits no way of writing a type. -/
  | noTypeForm
deriving DecidableEq

namespace Mismatch

/-- The fields a record has, as a message lists them. -/
def expectedFields : List Text → Text
  | [field] => "expected ".toList ++ field.inBackticks
  | fields => "expected one of ".toList ++ Text.joined ", ".toList (fields.map Text.inBackticks)

/-- The wording of a mismatch. -/
def message : Mismatch → Text
  | type found expected => "invalid type: ".toList ++ found ++ ", expected ".toList ++ expected
  | unknownField key fields =>
    "unknown field ".toList ++ key.inBackticks ++ ", ".toList ++ expectedFields fields
  | repeatedField key => "duplicate field ".toList ++ key.inBackticks
  | missingField key => "missing field ".toList ++ key.inBackticks
  | tooShort length record fields =>
    "invalid length ".toList ++ Text.ofNat length ++ ", expected struct ".toList ++ record
      ++ " with ".toList ++ Text.ofNat fields ++ " elements".toList
  | noTypeForm => "data did not match any variant of untagged enum TypeSpec".toList

end Mismatch

/-- What went wrong. -/
inductive Cause where
  | fault (f : Fault)
  | mismatch (m : Mismatch)
deriving DecidableEq

/-- The wording of a cause. -/
def Cause.message : Cause → Text
  | .fault f => f.message
  | .mismatch m => m.message

/-- The three kinds of causes. -/
inductive Category where
  | text | earlyEnd | shape
deriving DecidableEq

/-- The kind of a cause. -/
def Cause.category : Cause → Category
  | .fault f => if f.isEarlyEnd then .earlyEnd else .text
  | .mismatch _ => .shape

/-- A cause found while reading, with the place if one is known. -/
structure Refusal where
  cause : Cause
  place : Option Place
deriving DecidableEq

/-- A fault at a place. -/
def Refusal.ofFault (f : Fault) (p : Place) : Refusal :=
  ⟨.fault f, some p⟩

/-- A cause with its line and column in the document. -/
structure Error where
  cause : Cause
  position : Option Position
deriving DecidableEq

/-- A refusal with its place worked out in the document it came from. -/
def Refusal.inDocument (document : Text) (r : Refusal) : Error :=
  ⟨r.cause, r.place.map (·.position document)⟩

/-- The wording of an error, closed by its position if it has one. -/
def Error.message (e : Error) : Text :=
  match e.position with
  | none => e.cause.message
  | some p =>
    e.cause.message ++ " at line ".toList ++ Text.ofNat p.line ++ " column ".toList
      ++ Text.ofNat p.column

end Json

end SwiftDecl
